import HeaderBindings.Proofs.Generation.Run
import HeaderBindings.Proofs.Storage.Tree
import Mathlib.Control.Monad.Basic

/-!
# What a run leaves

A run that succeeds has written two files, and a run that fails has written one at most.  The
main statements hold on every faithful file system.

* `written_files`: after a run that succeeds the file of the function table holds what the run
  says, and so does the file of handles, unless both paths name one file; no other file has
  changed.
* `generate_leaves`: what is left when the generation fails, by the error that is reported, and
  which of several errors is reported.
-/

namespace HeaderBindings

section
variable {σ : Type} [FileAccess (StateM σ)] {v : FileView σ} {g : Generator} {d : Declarations}
  {s s₁ s' : σ}

/-! ## 1. Up to the output directory -/

theorem Generator.Finds.state_eq (h : g.Finds s d s') (hv : v.IsFaithful) : s' = s := by
  obtain ⟨c, hread, -⟩ := h
  exact hv.read_state hread

/-- No file has changed when the output directory is there. -/
theorem Generator.Prepares.contents_eq (h : g.Prepares s d s') (hv : v.IsFaithful) :
    v.contents s' = v.contents s := by
  obtain ⟨s₁, hfinds, -, hdirs⟩ := h
  obtain rfl := hfinds.state_eq hv
  exact hv.contents_createDirs hdirs

/-! ## 2. A run that succeeds -/

/-- **Both files are written.**  When a run succeeds, the file at the second reported path holds
    the output for the function table.  The file at the first reported path holds the output for
    the handles if the two paths name different files; if they name one file, it holds the output
    for the function table.  No other file has changed. -/
theorem written_files (hv : v.IsFaithful) {r : Report} (h : (g.runOn s).1.result = .ok r)
    (hs : (g.runOn s).2 = s') :
    ∃ d api funcs, (∃ s₁, g.Finds s d s₁) ∧
      r.api.path = Path.join g.options.outDir g.options.apiFile ∧
      r.funcs.path = Path.join g.options.outDir g.options.funcsFile ∧
      g.formatter.Yields (g.apiSource d) api r.api.accepted ∧
      g.formatter.Yields (g.funcsSource d) funcs r.funcs.accepted ∧
      (Files.read s' r.funcs.path).1 = .ok funcs.utf8 ∧
      (v.named s' r.api.path ≠ v.named s' r.funcs.path →
        (Files.read s' r.api.path).1 = .ok api.utf8) ∧
      (v.named s' r.api.path = v.named s' r.funcs.path →
        ∃ f, v.named s' r.api.path = some f ∧ v.contents s' f = some funcs.utf8) ∧
      ∀ f, v.named s' r.api.path ≠ some f → v.named s' r.funcs.path ≠ some f →
        v.contents s' f = v.contents s f := by
  have hends := Generator.ends_iff.2 ⟨h, hs⟩
  cases hends with
  | @written d s₁ s₂ _ hprepares hapi hfuncs =>
    obtain ⟨hread, f, f', hf, hf', hholds, hkept, hframe⟩ := hv.write_write hapi hfuncs
    have hbefore := hprepares.contents_eq hv
    obtain ⟨s₀, hfinds, -, -⟩ := hprepares
    refine ⟨d, (g.apiOutput d).text, (g.funcsOutput d).text, ⟨s₀, hfinds⟩, rfl, rfl,
      g.formatter.yields_finish _ _, g.formatter.yields_finish _ _, hread, ?_, ?_, ?_⟩
    · intro hne
      apply hkept
      rintro rfl
      exact hne (hf.trans hf'.symm)
    · intro heq
      refine ⟨f', ?_, hholds⟩
      exact heq.trans hf'
    · intro f'' hne hne'
      rw [hframe f'' (fun heq => hne (heq ▸ hf)) (fun heq => hne' (heq ▸ hf')), hbefore]

end

/-- The formatter knows the file of handles only; the output directory does not exist before. -/
theorem written_files_of_reluctant :
    let t : FileTree := ⟨[([("h" : Text)], .file (Text.utf8
      "typedef struct T T;\nOGA_EXPORT int OGA_API_CALL OgaF(T* t);"))], []⟩
    let f : Formatter := fun source =>
      if Text.startsWith source "//! Native API" then .ok ("// formatted\n" ++ source)
      else .error (.rejected "no API")
    let g : Generator := ⟨Options.ofPaths "h" "out/new", Conventions.builtin.extract, f⟩
    let r : Report :=
      ⟨"new", 1, 1, 0, 0, [], 0, ⟨"out/new/api.rs", true⟩, ⟨"out/new/funcs.rs", false⟩⟩
    FileTree.view.IsFaithful ∧ (g.runOn t).1.result = .ok r ∧
      ∃ d api funcs, (∃ t₁, g.Finds t d t₁) ∧
        f.Yields (g.apiSource d) api true ∧ f.Yields (g.funcsSource d) funcs false ∧
        (Files.read (g.runOn t).2 "out/new/api.rs").1 = .ok api.utf8 ∧
        (Files.read (g.runOn t).2 "out/new/funcs.rs").1 = .ok funcs.utf8 := by
  intro t f g r
  have hrun : (g.runOn t).1.result = .ok r := by decide +kernel
  obtain ⟨d, api, funcs, hfinds, -, -, hapi, hfuncs, hreadFuncs, hreadApi, -, -⟩ :=
    written_files FileTree.isFaithful hrun rfl
  have hnames := FileTree.named_ne (t := (g.runOn t).2) (p := r.api.path) (q := r.funcs.path)
    (by decide +kernel)
  exact ⟨FileTree.isFaithful, hrun, d, api, funcs, hfinds, hapi, hfuncs, hreadApi hnames,
    hreadFuncs⟩

/-- The file of handles does not always survive a run that succeeds: the file of the function
    table may have the same name. -/
theorem not_forall_written_files :
    ¬ ∀ (o : Options) (f : Formatter) (g : Generator) (t : FileTree) (r : Report),
      Generator.ofOptions f o = .ok g → (g.runOn t).1.result = .ok r →
      ∃ d api, (∃ t₁, g.Finds t d t₁) ∧ g.formatter.Yields (g.apiSource d) api r.api.accepted ∧
        (Files.read (g.runOn t).2 r.api.path).1 = .ok api.utf8 := by
  intro h
  let o : Options :=
    { Options.ofPaths "h" "out" with apiFile := "x.rs", funcsFile := "x.rs", format := false }
  let g : Generator := ⟨o, Conventions.builtin.extract, Formatter.identity⟩
  let t : FileTree := ⟨[([("h" : Text)], .file [])], []⟩
  have hrun : (g.runOn t).1.result =
      .ok ⟨"out", 0, 0, 0, 0, [], 0, ⟨"out/x.rs", true⟩, ⟨"out/x.rs", true⟩⟩ := by decide +kernel
  obtain ⟨d, api, ⟨t₁, c, hheader, rfl⟩, hyields, hread⟩ := h o Formatter.missing g t _ rfl hrun
  have hempty : Files.read t g.options.header = (.ok [], t) := rfl
  cases hempty.symm.trans hheader
  cases hyields with
  | formatted hsame =>
    cases hsame
    revert hread
    decide +kernel

/-! ## 3. A generation that fails -/

section
variable {σ : Type} [FileAccess (StateM σ)] {v : FileView σ} {f : Formatter} {o : Options}
  {g : Generator} {s s' : σ} {e : GenerationError}

/-- What the generation makes of the files `s`. -/
def generateOn (f : Formatter) (o : Options) (s : σ) : Outcome Report × σ :=
  (generate f o : StateM σ (Outcome Report)).run s

/-- The file of handles is complete, and no other file has changed. -/
def Generator.OnlyApiWritten (v : FileView σ) (g : Generator) (s s' : σ) : Prop :=
  ∃ d text accepted file, (∃ s₁, g.Finds s d s₁) ∧
    g.formatter.Yields (g.apiSource d) text accepted ∧ v.named s' g.apiPath = some file ∧
    v.contents s' file = some text.utf8 ∧
    ∀ file', file' ≠ file → v.contents s' file' = v.contents s file'

/-- What is left of the files `s` when the generation reports an error: the files `s'`. -/
def Leaves (v : FileView σ) (f : Formatter) (o : Options) (s s' : σ) : GenerationError → Prop
  | .unusableMarker _ | .headerUnreadable _ _ | .nothingExported _ => s' = s
  | .outputDirMissing _ _ => v.contents s' = v.contents s
  | .fileUnwritable p _ =>
    p = Path.join o.outDir o.apiFile ∧ v.contents s' = v.contents s ∨
    p = Path.join o.outDir o.funcsFile ∧
      ∃ g, Generator.ofOptions f o = .ok g ∧ g.OnlyApiWritten v s s'
  | .settingsUnreadable _ _ | .settingsMalformed _ => False

theorem Generator.ofOptions_eq_error_iff :
    Generator.ofOptions f o = .error e ↔ ∃ m, o.markers.error? = some m ∧ .unusableMarker m = e := by
  rw [ofOptions, Conventions.ofMarkers]
  cases o.markers.error? with
  | none => simp
  | some m => simp

theorem Generator.options_of_ofOptions (h : Generator.ofOptions f o = .ok g) : g.options = o := by
  rw [ofOptions] at h
  split at h
  · cases h
  · cases h
    rfl

theorem generateOn_of_error (h : Generator.ofOptions f o = .error e) (s : σ) :
    generateOn f o s = (⟨.error e, []⟩, s) := by
  rw [generateOn, generate, h]
  rfl

theorem generateOn_of_ok (h : Generator.ofOptions f o = .ok g) (s : σ) :
    generateOn f o s = g.runOn s := by
  rw [generateOn, generate, h]
  rfl

theorem Generator.result_headerUnreadable_iff {p : Path} {fault : Fault} :
    (g.runOn s).1.result = .error (.headerUnreadable p fault) ↔
      p = g.options.header ∧ (Files.read s p).1 = .error fault := by
  constructor
  · intro h
    have hends := g.ends_runOn s
    rw [h] at hends
    cases hends with
    | unread hread => exact ⟨rfl, congrArg Prod.fst hread⟩
  · rintro ⟨rfl, hread⟩
    exact (Generator.ends_iff.1 (.unread (Prod.ext hread rfl))).1

theorem Generator.result_nothingExported_iff {p : Path} :
    (g.runOn s).1.result = .error (.nothingExported p) ↔
      p = g.options.header ∧ ∃ d s₁, g.Finds s d s₁ ∧ g.IsBarren d := by
  constructor
  · intro h
    have hends := g.ends_runOn s
    rw [h] at hends
    cases hends with
    | barren hfinds hbarren => exact ⟨rfl, _, _, hfinds, hbarren⟩
  · rintro ⟨rfl, d, s₁, hfinds, hbarren⟩
    exact (Generator.ends_iff.1 (.barren hfinds hbarren)).1

theorem Generator.Ends.leaves (h : g.Ends s (.error e) s') (hv : v.IsFaithful)
    (hg : Generator.ofOptions f o = .ok g) : Leaves v f o s s' e := by
  obtain rfl := Generator.options_of_ofOptions hg
  cases h with
  | unread hread => exact hv.read_state hread
  | barren hfinds hbarren => exact hfinds.state_eq hv
  | noDirectory hfinds henough hdirs =>
    obtain rfl := hfinds.state_eq hv
    exact hv.contents_createDirs hdirs
  | apiUnwritten hprepares hapi =>
    exact .inl ⟨rfl, (hv.contents_fault hapi).trans (hprepares.contents_eq hv)⟩
  | @funcsUnwritten d fault s₁ s₂ s' hprepares hapi hfuncs =>
    obtain ⟨file, hnamed, hholds, hframe⟩ := hv.write_fault hapi hfuncs
    rw [hprepares.contents_eq hv] at hframe
    obtain ⟨s₀, hfinds, -⟩ := hprepares
    exact .inr ⟨rfl, g, hg, d, _, _, file, ⟨s₀, hfinds⟩, g.formatter.yields_finish _ _, hnamed,
      hholds, hframe⟩

/-- **A generation that fails leaves nothing half-made.**  Nothing at all has changed if a marker
    cannot be used, the header cannot be read or nothing is exported; no file has changed if the
    output directory cannot be created or the file of handles cannot be written; and if the other
    file cannot be written, then the file of handles is complete and no other file has changed.
    A marker that cannot be used is reported before anything else, a header that cannot be read
    before a lack of functions, and a lack of functions before the faults of the output. -/
theorem generate_leaves (hv : v.IsFaithful) (f : Formatter) (o : Options) (s : σ) :
    (∀ e, (generateOn f o s).1.result = .error e → Leaves v f o s (generateOn f o s).2 e) ∧
    (∀ m, (generateOn f o s).1.result = .error (.unusableMarker m) ↔
      o.markers.error? = some m) ∧
    (∀ p fault, (generateOn f o s).1.result = .error (.headerUnreadable p fault) ↔
      o.markers.error? = none ∧ p = o.header ∧ (Files.read s p).1 = .error fault) ∧
    ∀ p, (generateOn f o s).1.result = .error (.nothingExported p) ↔
      p = o.header ∧
        ∃ g d s₁, Generator.ofOptions f o = .ok g ∧ g.Finds s d s₁ ∧ g.IsBarren d := by
  cases hg : Generator.ofOptions f o with
  | error e =>
    obtain ⟨m, hm, rfl⟩ := Generator.ofOptions_eq_error_iff.1 hg
    rw [generateOn_of_error hg, hm]
    refine ⟨?_, ?_, ?_, ?_⟩
    · intro e he
      cases he
      rfl
    · simp
    · simp
    · simp
  | ok g =>
    have hends := g.ends_runOn s
    have hnone : o.markers.error? = none := by
      cases hm : o.markers.error? with
      | none => rfl
      | some m =>
        have herror : Generator.ofOptions f o = .error (.unusableMarker m) :=
          Generator.ofOptions_eq_error_iff.2 ⟨m, hm, rfl⟩
        rw [hg] at herror
        cases herror
    rw [generateOn_of_ok hg]
    refine ⟨?_, ?_, ?_, ?_⟩
    · intro e he
      rw [he] at hends
      exact hends.leaves hv hg
    · intro m
      rw [hnone]
      constructor
      · intro he
        rw [he] at hends
        cases hends
      · intro hm
        cases hm
    · intro p fault
      rw [Generator.result_headerUnreadable_iff, Generator.options_of_ofOptions hg]
      simp [hnone]
    · intro p
      rw [Generator.result_nothingExported_iff, Generator.options_of_ofOptions hg]
      simp

end

/-- A directory stands at the path of the function table. -/
theorem generate_leaves_of_directory :
    let t : FileTree := ⟨[([("h" : Text)], .file (Text.utf8
      "typedef struct T T;\nOGA_EXPORT int OGA_API_CALL OgaF(T* t);")),
      (["out"], .dir), (["out", "funcs.rs"], .dir)], []⟩
    let o : Options := { Options.ofPaths "h" "out" with format := false }
    FileTree.view.IsFaithful ∧
      (generateOn Formatter.missing o t).1.result =
        .error (.fileUnwritable "out/funcs.rs" .isDirectory) ∧
      ∃ g, Generator.ofOptions Formatter.missing o = .ok g ∧
        g.OnlyApiWritten FileTree.view t (generateOn Formatter.missing o t).2 := by
  intro t o
  have hrun : (generateOn Formatter.missing o t).1.result =
      .error (.fileUnwritable "out/funcs.rs" .isDirectory) := by decide +kernel
  obtain ⟨hleaves, -, -, -⟩ := generate_leaves FileTree.isFaithful Formatter.missing o t
  have hleft := hleaves _ hrun
  rcases hleft with ⟨hapi, -⟩ | ⟨-, g, hg, honly⟩
  · exact absurd hapi (by decide)
  · exact ⟨FileTree.isFaithful, hrun, g, hg, honly⟩

end HeaderBindings
