import HeaderBindings.CommandLine.Program

/-!
# Settings layer by key

Nine keys can be set, and a layer of settings gives a value to some of them (`value?`).  A
settings file is one layer, and the flags of a call are another one (`Flags.settings`), though
they are written into the options by a routine of their own (`Flags.override`).

Applying a layer changes the keys that it gives and nothing else (`value?_apply`), and
overriding by flags does the same (`value?_override`).  Options are known by their two paths and
their nine values (`Options.eq_of_value?`), so all else follows key by key: what a run of layers
leaves is the value of the last layer that gives the key (`value?_foldl_apply`), the two
routines agree (`Flags.override_eq_apply`), and layers can be merged before they are applied
(`apply_merge`).
-/

namespace HeaderBindings

/-! ## 1. Keys -/

namespace Settings

inductive Key where
  | package | exportMarker | callMarker | stripPrefix | apiFile | funcsFile | runtimeCrate
  | format | requireFunctions
  deriving DecidableEq, Repr

/-- What a key is set to: two of them can be on or off, the others hold a text. -/
abbrev Key.Value : Key → Type
  | .format => Bool
  | .requireFunctions => Bool
  | _ => Text

/-- The value of a key that no layer gives.  There is no built-in name of a package. -/
def Key.builtin? : (k : Key) → Option k.Value
  | .package => Option.none
  | .exportMarker => some ("OGA_EXPORT" : Text)
  | .callMarker => some ("OGA_API_CALL" : Text)
  | .stripPrefix => some ("Oga" : Text)
  | .apiFile => some ("api.rs" : Text)
  | .funcsFile => some ("funcs.rs" : Text)
  | .runtimeCrate => some ("hdrbind_runtime" : Text)
  | .format => some true
  | .requireFunctions => some false

/-- The value that a layer gives to a key, if it gives one. -/
def value? (s : Settings) : (k : Key) → Option k.Value
  | .package => s.package
  | .exportMarker => s.exportMarker
  | .callMarker => s.callMarker
  | .stripPrefix => s.stripPrefix
  | .apiFile => s.apiFile
  | .funcsFile => s.funcsFile
  | .runtimeCrate => s.runtimeCrate
  | .format => s.format
  | .requireFunctions => s.requireFunctions

theorem eq_of_value? {s t : Settings} (h : ∀ k, s.value? k = t.value? k) : s = t := by
  cases s
  cases t
  simp only [mk.injEq]
  exact ⟨h .package, h .exportMarker, h .callMarker, h .stripPrefix, h .apiFile, h .funcsFile,
    h .runtimeCrate, h .format, h .requireFunctions⟩

/-- **Merging is right-biased** in every key. -/
theorem value?_merge (first second : Settings) (k : Key) :
    (first.merge second).value? k = (second.value? k).or (first.value? k) := by
  cases k <;> rfl

theorem merge_assoc (a b c : Settings) : (a.merge b).merge c = a.merge (b.merge c) := by
  apply eq_of_value?
  intro k
  simp only [value?_merge, Option.or_assoc]

/-- The value that the last of some layers gives to a key, among those that give one. -/
def lastGiven? (k : Key) (layers : List Settings) : Option k.Value :=
  (layers.filterMap (·.value? k)).getLast?

theorem lastGiven?_cons (k : Key) (s : Settings) (layers : List Settings) :
    lastGiven? k (s :: layers) = (lastGiven? k layers).or (s.value? k) := by
  simp only [lastGiven?, List.filterMap_cons]
  cases s.value? k with
  | none => exact Option.or_none.symm
  | some v => rw [List.getLast?_cons, Option.or_some]

end Settings

/-! ## 2. Layers over options -/

namespace Options

open Settings

/-- The value of a key.  Only the package can have none. -/
def value? (o : Options) : (k : Key) → Option k.Value
  | .package => o.package
  | .exportMarker => some o.markers.exporting
  | .callMarker => some o.markers.calling
  | .stripPrefix => some o.stripPrefix
  | .apiFile => some o.apiFile
  | .funcsFile => some o.funcsFile
  | .runtimeCrate => some o.runtimeCrate
  | .format => some o.format
  | .requireFunctions => some o.requireFunctions

/-- **Options are known** by their paths and their nine values. -/
theorem eq_of_value? {o p : Options} (hheader : o.header = p.header)
    (houtDir : o.outDir = p.outDir) (h : ∀ k, o.value? k = p.value? k) : o = p := by
  have hmarkers : o.markers = p.markers := by
    have hexport : o.markers.exporting = p.markers.exporting := Option.some.inj (h .exportMarker)
    have hcall : o.markers.calling = p.markers.calling := Option.some.inj (h .callMarker)
    cases ho : o.markers
    cases hp : p.markers
    rw [ho, hp] at hexport hcall
    simp only [Markers.mk.injEq]
    exact ⟨hexport, hcall⟩
  cases o
  cases p
  simp only [mk.injEq]
  exact ⟨hheader, houtDir, h .package, hmarkers, Option.some.inj (h .stripPrefix),
    Option.some.inj (h .apiFile), Option.some.inj (h .funcsFile),
    Option.some.inj (h .runtimeCrate), Option.some.inj (h .format),
    Option.some.inj (h .requireFunctions)⟩

theorem value?_ofPaths (header outDir : Path) (k : Key) :
    (ofPaths header outDir).value? k = k.builtin? := by
  cases k <;> rfl

/-- **A layer changes the keys that it gives** and no other ones. -/
theorem value?_apply (o : Options) (s : Settings) (k : Key) :
    (o.apply s).value? k = (s.value? k).or (o.value? k) := by
  cases k with
  | package => rfl
  | _ => exact Option.or_some.symm

theorem apply_merge (o : Options) (first second : Settings) :
    (o.apply first).apply second = o.apply (first.merge second) := by
  apply eq_of_value?
  · rfl
  · rfl
  · intro k
    simp only [value?_apply, value?_merge, Option.or_assoc]

variable {o : Options} {layers : List Settings}

theorem header_foldl_apply : (layers.foldl apply o).header = o.header := by
  induction layers generalizing o with
  | nil => rfl
  | cons s layers ih => exact ih

theorem outDir_foldl_apply : (layers.foldl apply o).outDir = o.outDir := by
  induction layers generalizing o with
  | nil => rfl
  | cons s layers ih => exact ih

/-- **The last layer that gives a key** has its value, whatever the others give. -/
theorem value?_foldl_apply (k : Key) :
    (layers.foldl apply o).value? k = (lastGiven? k layers).or (o.value? k) := by
  induction layers generalizing o with
  | nil => rfl
  | cons s layers ih =>
    rw [List.foldl_cons, ih, value?_apply, lastGiven?_cons, Option.or_assoc]

/-- The options of a run to which layers were applied, the first one first. -/
structure IsLayered (header outDir : Path) (layers : List Settings) (o : Options) : Prop where
  header : o.header = header
  outDir : o.outDir = outDir
  /-- Each key has the last value that was given to it, or else the built-in one. -/
  value? : ∀ k, o.value? k = (lastGiven? k layers).or k.builtin?

theorem isLayered_foldl_apply (header outDir : Path) (layers : List Settings) :
    IsLayered header outDir layers (layers.foldl apply (ofPaths header outDir)) where
  header := header_foldl_apply
  outDir := outDir_foldl_apply
  value? k := by rw [value?_foldl_apply, value?_ofPaths]

end Options

/-! ## 3. Flags -/

namespace CommandLine

open Settings (Key)

/-- The flags as a layer of settings. -/
def Flags.settings (f : Flags) : Settings where
  package := f.package
  exportMarker := f.exportMarker
  callMarker := f.callMarker
  stripPrefix := f.stripPrefix
  apiFile := f.apiFile
  funcsFile := f.funcsFile
  runtimeCrate := f.runtimeCrate
  format := if f.noFormat then some false else none
  requireFunctions := if f.requireFunctions then some true else none

theorem Flags.value?_override (f : Flags) (o : Options) (k : Key) :
    (f.override o).value? k = (f.settings.value? k).or (o.value? k) := by
  cases k with
  | package => rfl
  | format =>
    show some (if f.noFormat then false else o.format) =
      (if f.noFormat then some false else none).or (some o.format)
    cases f.noFormat <;> rfl
  | requireFunctions =>
    show some (if f.requireFunctions then true else o.requireFunctions) =
      (if f.requireFunctions then some true else none).or (some o.requireFunctions)
    cases f.requireFunctions <;> rfl
  | _ => exact Option.or_some.symm

/-- **The two routines agree**: overriding by flags is applying them as a layer. -/
theorem Flags.override_eq_apply (f : Flags) (o : Options) : f.override o = o.apply f.settings := by
  apply Options.eq_of_value?
  · rfl
  · rfl
  · intro k
    rw [value?_override, Options.value?_apply]

theorem Invocation.options_some (i : Invocation) (file : Settings) :
    i.options (some file) = ((Options.ofPaths i.header i.out).apply file).apply i.flags.settings :=
  i.flags.override_eq_apply _

theorem Invocation.options_none (i : Invocation) :
    i.options none = (Options.ofPaths i.header i.out).apply i.flags.settings :=
  i.flags.override_eq_apply _

/-- **Settings layer by key.**  After any settings files, and after flags behind them, every key
    has the value of the last layer that gives it, or else the built-in one, and the paths are
    those of the run.  A call of the program applies its settings file, if it loads one, and then
    its flags as one more layer.  Layers can be merged key by key before they are applied. -/
theorem settings_layer_by_key {m : Type → Type} [Monad m] [FileAccess m] :
    (∀ (header outDir : Path) (files : List Settings),
      Options.IsLayered header outDir files
          (files.foldl Options.apply (Options.ofPaths header outDir)) ∧
        ∀ f : Flags, Options.IsLayered header outDir (files ++ [f.settings])
          (f.override (files.foldl Options.apply (Options.ofPaths header outDir)))) ∧
      (∀ i : Invocation, (loadOptions i : m (Except GenerationError Options)) =
        match i.config with
        | none => return .ok ((Options.ofPaths i.header i.out).apply i.flags.settings)
        | some path => return (← loadSettings path).map fun file =>
          ((Options.ofPaths i.header i.out).apply file).apply i.flags.settings) ∧
      (∀ (o : Options) (first second : Settings),
        (o.apply first).apply second = o.apply (first.merge second)) ∧
      (∀ (first second : Settings) (k : Key),
        (first.merge second).value? k = (second.value? k).or (first.value? k)) ∧
      ∀ a b c : Settings, (a.merge b).merge c = a.merge (b.merge c) := by
  refine ⟨?_, ?_, Options.apply_merge, Settings.value?_merge,
    Settings.merge_assoc⟩
  · intro header outDir files
    refine ⟨Options.isLayered_foldl_apply header outDir files, fun f => ?_⟩
    have hlayers := Options.isLayered_foldl_apply header outDir (files ++ [f.settings])
    rw [List.foldl_append, List.foldl_cons, List.foldl_nil, ← f.override_eq_apply] at hlayers
    exact hlayers
  · intro i
    unfold loadOptions
    cases i.config with
    | none => simp only [Invocation.options_none]
    | some path => simp only [Invocation.options_some]

/-- The flag that stops formatting wins over a file that asks for it, and a marker of the first
    file over the built-in one. -/
example :
    let files : List Settings :=
      [{ Settings.none with exportMarker := some "API" }, { Settings.none with format := some true }]
    let o := (Flags.mk none none none none none none none true false).override
      (files.foldl Options.apply (Options.ofPaths "h" "out"))
    o.format = false ∧ o.markers = ⟨"API", "OGA_API_CALL"⟩ ∧ o.requireFunctions = false := by
  decide

end CommandLine

end HeaderBindings
