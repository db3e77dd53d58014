import HeaderBindings.Proofs.Artifact.Forwarding
import HeaderBindings.Proofs.HandleNames

/-!
# The generated code is closed

Every name that a generated signature mentions has a declaration: a handle is the alias of
one opaque type, which the file of handles and methods declares together with its marker
enum, and the foreign types are imported wherever a signature needs them, and only there.

Declarations are read back from the lines of code of the rendered files, as the methods are.
An alias is found once because the choice of handle names leaves no two of them equal
(`nodup_reservedItems_append_chosen`), and it is an alias of the extraction because types are
mapped with the aliases that were chosen (`TypeMapping.isNamed_map`).
-/

namespace HeaderBindings

namespace Artifact

open Text

/-! ## 1. Reading declarations -/

/-- The alias of a handle and the marker that it is made with. -/
structure Alias where
  name : Text
  marker : Text
  deriving DecidableEq, Repr

def alias? (l : Text) : Option Alias := do
  let t ← ("pub type " : Text).isPrefixOf? l
  let t ← (">;" : Text).isSuffixOf? t
  let (name, t) ← cutFirst? ' ' t
  let t ← ("= " : Text).isPrefixOf? t
  let (_, t) ← cutLast? ':' t
  let marker ← ("Handle<" : Text).isPrefixOf? t
  return ⟨name, marker⟩

def markerEnum? (l : Text) : Option Text := do
  let t ← ("pub enum " : Text).isPrefixOf? l
  (" \x7b\x7d" : Text).isSuffixOf? t

/-- The foreign types that a line imports: one, or a list in braces. -/
def foreignNames? (l : Text) : Option (List Text) := do
  let t ← ("use std::ffi::" : Text).isPrefixOf? l
  let t ← (";" : Text).isSuffixOf? t
  match ("\x7b" : Text).isPrefixOf? t with
  | none => return [t]
  | some t => return items (← ("\x7d" : Text).isSuffixOf? t)

/-- What a reader of single lines finds in the code of a file. -/
def declared {β : Type} (read? : Text → Option β) (file : Text) : List β :=
  (codeLines file).filterMap read?

def aliases (file : Text) : List Alias := declared alias? file

def markerEnums (file : Text) : List Text := declared markerEnum? file

def imports (file : Text) : List Text := (declared foreignNames? file).flatten

/-! ## 2. Lines that declare nothing -/

/-- How the lines begin that declare or import a type. -/
def itemStarts : List Text := ["pub type ", "pub enum ", "use std::ffi::"]

/-- The reader knows lines with the given beginning only. -/
def ReadsAfter {β : Type} (start : Text) (read? : Text → Option β) : Prop :=
  ∀ l, start.isPrefixOf l = false → read? l = none

theorem isPrefixOf?_eq_none {start l : Text} (h : start.isPrefixOf l = false) :
    start.isPrefixOf? l = none := by
  rw [Option.eq_none_iff_forall_ne_some]
  intro t ht
  have hsplit := List.isPrefixOf?_eq_some_iff_append_eq.1 ht
  rw [← hsplit, List.isPrefixOf_iff_prefix.2 (List.prefix_append start t)] at h
  cases h

theorem readsAfter_bind {β : Type} (start : Text) (next : Text → Option β) :
    ReadsAfter start fun l => (start.isPrefixOf? l).bind next := by
  intro l h
  show (start.isPrefixOf? l).bind next = none
  rw [isPrefixOf?_eq_none h]
  rfl

theorem readsAfter_alias? : ReadsAfter "pub type " alias? := readsAfter_bind _ _

theorem readsAfter_markerEnum? : ReadsAfter "pub enum " markerEnum? := readsAfter_bind _ _

theorem readsAfter_foreignNames? : ReadsAfter "use std::ffi::" foreignNames? :=
  readsAfter_bind _ _

theorem ReadsAfter.filterMap_eq_nil {β : Type} {start : Text} {read? : Text → Option β}
    (hread : ReadsAfter start read?) {ls : List Text}
    (h : ∀ l ∈ ls, start.isPrefixOf l = false) : ls.filterMap read? = [] := by
  rw [List.filterMap_eq_nil_iff]
  intro l hl
  exact hread l (h l hl)

/-! ## 3. Handles -/

theorem code_handleLines (runtime : Text) (o : OpaqueType) :
    (handleLines runtime o).filter isCode =
      ["pub enum " ++ o.marker ++ " \x7b\x7d",
        "pub type " ++ o.handle ++ " = " ++ runtime ++ "::Handle<" ++ o.marker ++ ">;"] := by
  have henum : isCode ("pub enum " ++ o.marker ++ " \x7b\x7d") = true :=
    isCode_indented (s := []) (by simp) (by decide) (by decide) _
  have htype : isCode
      ("pub type " ++ o.handle ++ " = " ++ runtime ++ "::Handle<" ++ o.marker ++ ">;") = true := by
    simp only [List.append_assoc]
    exact isCode_indented (s := []) (by simp) (by decide) (by decide) _
  have hmarker : isCode ("/// Marker for the `" ++ o.name ++ "` handle kind.") = false := rfl
  have halias : isCode ("/// Opaque handle to a native `" ++ o.name ++ "`.") = false := rfl
  have hempty : isCode [] = false := rfl
  rw [handleLines, List.filter_cons_of_neg (by rw [hmarker]; decide),
    List.filter_cons_of_pos henum, List.filter_cons_of_neg (by rw [hempty]; decide),
    List.filter_cons_of_neg (by rw [halias]; decide), List.filter_cons_of_pos htype,
    List.filter_cons_of_neg (by rw [hempty]; decide), List.filter_nil]

theorem alias?_handleLine {o : OpaqueType} (h : o.IsClean) (runtime : Text) :
    alias? ("pub type " ++ o.handle ++ " = " ++ runtime ++ "::Handle<" ++ o.marker ++ ">;") =
      some ⟨o.handle, o.marker⟩ := by
  have hmarker : ':' ∉ "Handle<" ++ o.marker := by
    have hhandle : ':' ∉ o.handle := h.handle.not_mem (by decide)
    simp [OpaqueType.marker, OpaqueType.markerName, hhandle]
  have hshape : "pub type " ++ o.handle ++ " = " ++ runtime ++ "::Handle<" ++ o.marker ++ ">;" =
      "pub type " ++ ((o.handle ++ ' ' :: ("= " ++
        ((runtime ++ ":") ++ ':' :: ("Handle<" ++ o.marker)))) ++ ">;") := by
    have hcolons : ("::Handle<" : Text) = ":" ++ ':' :: "Handle<" := by decide
    simp only [hcolons, List.append_assoc, List.cons_append]
    rfl
  rw [alias?, hshape]
  simp only [isPrefixOf?_append, isSuffixOf?_append, Option.bind_eq_bind, Option.bind_some,
    cutFirst?_append (h.handle.not_mem (c := ' ') (by decide)), cutLast?_append hmarker]
  rfl

theorem markerEnum?_handleLine (o : OpaqueType) :
    markerEnum? ("pub enum " ++ o.marker ++ " \x7b\x7d") = some o.marker := by
  rw [markerEnum?, List.append_assoc]
  simp only [isPrefixOf?_append, isSuffixOf?_append, Option.bind_eq_bind, Option.bind_some]

/-- A reader of handles finds what it finds in the two lines of each opaque type. -/
theorem filterMap_handleLines {β : Type} {read? : Text → Option β} {runtime : Text}
    {os : List OpaqueType} {g : OpaqueType → β}
    (h : ∀ o ∈ os, ((handleLines runtime o).filter isCode).filterMap read? = [g o]) :
    ((os.flatMap (handleLines runtime)).filter isCode).filterMap read? = os.map g := by
  rw [List.filter_flatMap, List.filterMap_flatMap, List.map_eq_flatMap]
  exact List.flatMap_congr h

theorem filterMap_alias?_handleLines {o : OpaqueType} (h : o.IsClean) (runtime : Text) :
    ((handleLines runtime o).filter isCode).filterMap alias? = [⟨o.handle, o.marker⟩] := by
  rw [code_handleLines, List.filterMap_cons_none (readsAfter_alias? _ rfl),
    List.filterMap_cons_some (alias?_handleLine h runtime), List.filterMap_nil]

theorem filterMap_markerEnum?_handleLines (o : OpaqueType) (runtime : Text) :
    ((handleLines runtime o).filter isCode).filterMap markerEnum? = [o.marker] := by
  have htype : ("pub enum " : Text).isPrefixOf
      ("pub type " ++ o.handle ++ " = " ++ runtime ++ "::Handle<" ++ o.marker ++ ">;") = false := by
    simp only [List.append_assoc]
    rfl
  rw [code_handleLines, List.filterMap_cons_some (markerEnum?_handleLine o),
    List.filterMap_cons_none (readsAfter_markerEnum? _ htype), List.filterMap_nil]

/-! ## 4. Imports -/

theorem filterMap_foreignImports (b : Bindings) :
    (((foreignImports b).filter isCode).filterMap foreignNames?).flatten = foreignNames b := by
  unfold foreignImports foreignNames
  cases b.types.any SignatureType.needsCChar <;> cases b.types.any SignatureType.needsCVoid <;>
    decide

/-- The heading of a file imports the foreign types that the signatures need. -/
theorem filterMap_heading (title : Text) (b : Bindings) :
    (((heading title b).filter isCode).filterMap foreignNames?).flatten = foreignNames b := by
  have hbanner : ((banner title b).filter isCode).filterMap foreignNames? = [] :=
    readsAfter_foreignNames?.filterMap_eq_nil fun _ hl =>
      isPrefixOf_eq_false_of_head? rfl (head?_of_mem_banner (List.mem_of_mem_filter hl))
  rw [heading, List.filter_append, List.filterMap_append, hbanner, List.nil_append,
    filterMap_foreignImports]

/-- The foreign names are those that occur under the pointers of some type. -/
theorem mem_foreignNames {b : Bindings} :
    (("c_char" : Text) ∈ foreignNames b ↔ ∃ t ∈ b.types, t.core = .scalar .cChar) ∧
      (("c_void" : Text) ∈ foreignNames b ↔ ∃ t ∈ b.types, t.core = .untyped) := by
  have hchar : b.types.any SignatureType.needsCChar = true ↔
      ∃ t ∈ b.types, t.core = .scalar .cChar := by
    simp only [List.any_eq_true, SignatureType.needsCChar, decide_eq_true_eq]
  have hvoid : b.types.any SignatureType.needsCVoid = true ↔
      ∃ t ∈ b.types, t.core = .untyped := by
    simp only [List.any_eq_true, SignatureType.needsCVoid, decide_eq_true_eq]
  rw [← hchar, ← hvoid]
  unfold foreignNames
  cases b.types.any SignatureType.needsCChar <;> cases b.types.any SignatureType.needsCVoid <;>
    decide

/-! ## 5. The file of handles and methods -/

/-- No line of the trait declares or imports a type. -/
theorem isPrefixOf_traitLines {fs : List Function} {start l : Text} (hstart : start ∈ itemStarts)
    (h : l ∈ (traitLines fs).filter isCode) : start.isPrefixOf l = false := by
  have hfixed : ∀ s ∈ itemStarts,
      ∀ m ∈ [("pub trait Api \x7b\x7d" : Text), "pub trait Api \x7b", "\x7d"],
        s.isPrefixOf m = false := by decide
  have hhead : ∀ s ∈ itemStarts, s.head?.any (· ≠ ' ') = true := by decide
  rw [code_traitLines] at h
  split at h
  · exact hfixed start hstart l (by simp [List.mem_singleton.1 h])
  · rcases List.mem_cons.1 h with rfl | h
    · exact hfixed start hstart _ (by simp)
    · rcases List.mem_append.1 h with h | h
      · -- the methods are indented
        obtain ⟨f, -, rfl⟩ := List.mem_map.1 h
        exact isPrefixOf_eq_false_of_head? (hhead start hstart) rfl
      · exact hfixed start hstart l (by simp [List.mem_singleton.1 h])

/-- The heading declares no type. -/
theorem filterMap_heading_eq_nil {β : Type} {start : Text} {read? : Text → Option β}
    (hread : ReadsAfter start read?) (hstart : ("pub " : Text) <+: start) (title : Text)
    (b : Bindings) :
    ((heading title b).filter isCode).filterMap read? = [] :=
  hread.filterMap_eq_nil fun _ hl =>
    isPrefixOf_of_isPrefix hstart (isPrefixOf_heading (List.mem_of_mem_filter hl))

section
variable {b : Bindings} (hb : IsReadable b) {runtime : Text} (hruntime : '\n' ∉ runtime)
include hb hruntime

/-- What is declared in the file stands in its heading or with its handles. -/
theorem declared_traitFileLines {β : Type} {start : Text} {read? : Text → Option β}
    (hread : ReadsAfter start read?) (hstart : start ∈ itemStarts) :
    declared read? (unlines (traitFileLines runtime b)) =
      ((heading "Native API surface" b).filter isCode).filterMap read? ++
        ((b.opaqueTypes.entries.flatMap (handleLines runtime)).filter isCode).filterMap read? := by
  have hdoc : (["/// Functions exported by `" ++ b.headerTitle ++ "`."] : List Text).filter
      isCode = [] := List.filter_cons_of_neg (by
    rw [show isCode ("/// Functions exported by `" ++ b.headerTitle ++ "`.") = false from rfl]
    decide)
  have htrait : ((traitLines b.functions).filter isCode).filterMap read? = [] :=
    hread.filterMap_eq_nil fun _ hl => isPrefixOf_traitLines hstart hl
  rw [declared, codeLines_unlines (newline_notMem_traitFileLines hb hruntime), traitFileLines]
  simp only [List.filter_append, hdoc, List.append_nil, List.filterMap_append, htrait, heading]

theorem aliases_traitFileLines : aliases (unlines (traitFileLines runtime b)) =
    b.opaqueTypes.entries.map fun o => ⟨o.handle, o.marker⟩ := by
  rw [aliases, declared_traitFileLines hb hruntime readsAfter_alias? (by decide),
    filterMap_heading_eq_nil readsAfter_alias? (by decide), List.nil_append]
  exact filterMap_handleLines fun o ho =>
    filterMap_alias?_handleLines (hb.opaqueTypes o ho) runtime

theorem markerEnums_traitFileLines : markerEnums (unlines (traitFileLines runtime b)) =
    b.opaqueTypes.entries.map (·.marker) := by
  rw [markerEnums, declared_traitFileLines hb hruntime readsAfter_markerEnum? (by decide),
    filterMap_heading_eq_nil readsAfter_markerEnum? (by decide), List.nil_append]
  exact filterMap_handleLines fun o _ => filterMap_markerEnum?_handleLines o runtime

theorem imports_traitFileLines :
    imports (unlines (traitFileLines runtime b)) = foreignNames b := by
  have hhandles : ((b.opaqueTypes.entries.flatMap (handleLines runtime)).filter
      isCode).filterMap foreignNames? = [] := by
    apply readsAfter_foreignNames?.filterMap_eq_nil
    intro l hl
    obtain ⟨o, -, hl⟩ := List.mem_flatMap.1 (List.mem_of_mem_filter hl)
    simp only [handleLines, List.mem_cons, List.not_mem_nil, or_false] at hl
    rcases hl with rfl | rfl | rfl | rfl | rfl | rfl <;> rfl
  rw [imports, declared_traitFileLines hb hruntime readsAfter_foreignNames? (by decide),
    hhandles, List.append_nil, filterMap_heading]

end

/-! ## 6. The file of the function table -/

section
variable {fs : List Function} {l : Text}

theorem isPrefixOf_tableLines (h : l ∈ tableLines fs) :
    ("use std::ffi::" : Text).isPrefixOf l = false := by
  simp only [tableLines, List.mem_append, or_assoc] at h
  rcases h with h | h | h
  · revert l
    decide
  · obtain ⟨e, -, rfl⟩ := List.mem_map.1 h
    rfl
  · revert l
    decide

theorem isPrefixOf_loadLines {runtime title : Text} (h : l ∈ loadLines runtime title fs) :
    ("use std::ffi::" : Text).isPrefixOf l = false := by
  simp only [loadLines, loadOpening, List.mem_append, or_assoc] at h
  rcases h with h | h | h
  · simp only [List.mem_cons, List.not_mem_nil, or_false] at h
    rcases h with rfl | rfl | rfl | rfl | rfl | rfl | rfl | rfl | rfl <;> rfl
  · obtain ⟨e, -, rfl⟩ := List.mem_map.1 h
    rfl
  · revert l
    decide

theorem isPrefixOf_implLines (h : l ∈ (implLines fs).filter isCode) :
    ("use std::ffi::" : Text).isPrefixOf l = false := by
  rw [code_implLines] at h
  split at h
  · rw [List.mem_singleton.1 h]
    decide
  · rcases List.mem_cons.1 h with rfl | h
    · decide
    · rcases List.mem_append.1 h with h | h
      · obtain ⟨e, -, h⟩ := List.mem_flatMap.1 h
        simp only [forwardLines, List.mem_cons, List.not_mem_nil, or_false] at h
        rcases h with rfl | rfl | rfl <;> rfl
      · rw [List.mem_singleton.1 h]
        decide

end

/-- Behind its heading the table imports the names of the other file only. -/
theorem imports_tableFileLines {b : Bindings} (hb : IsReadable b) {runtime apiModule : Text}
    (hruntime : '\n' ∉ runtime) (hmodule : '\n' ∉ apiModule) :
    imports (unlines (tableFileLines runtime apiModule b)) = foreignNames b := by
  have hsuper : ((["use super::" ++ apiModule ++ "::*;", []] : List Text).filter
      isCode).filterMap foreignNames? = [] := by
    apply readsAfter_foreignNames?.filterMap_eq_nil
    intro l hl
    rcases List.mem_pair.1 (List.mem_of_mem_filter hl) with rfl | rfl <;> rfl
  have htable : ((tableLines b.functions).filter isCode).filterMap foreignNames? = [] :=
    readsAfter_foreignNames?.filterMap_eq_nil fun _ hl =>
      isPrefixOf_tableLines (List.mem_of_mem_filter hl)
  have hload : ((loadLines runtime b.headerTitle b.functions).filter
      isCode).filterMap foreignNames? = [] :=
    readsAfter_foreignNames?.filterMap_eq_nil fun _ hl =>
      isPrefixOf_loadLines (List.mem_of_mem_filter hl)
  have himpl : ((implLines b.functions).filter isCode).filterMap foreignNames? = [] :=
    readsAfter_foreignNames?.filterMap_eq_nil fun _ hl => isPrefixOf_implLines hl
  rw [imports, declared, codeLines_unlines (newline_notMem_tableFileLines hb hruntime hmodule),
    tableFileLines]
  simp only [List.filter_append, List.filterMap_append, hsuper, htable, hload, himpl,
    List.append_nil]
  rw [← List.filterMap_append, ← List.filter_append]
  exact filterMap_heading _ b

end Artifact

/-! ## 7. Types of signatures -/

namespace SignatureType

/-- A type that can stand under all the pointers of a type: a name of a type that is built in
    or imported, or the alias of exactly one opaque type. -/
def IsNamed (opaques : OpaqueTypes) : SignatureType → Prop
  | .pointer _ _ => False
  | .handle name => ∃! o, o ∈ opaques.entries ∧ o.handle = name
  | _ => True

end SignatureType

theorem existsUnique_handle {opaques : OpaqueTypes}
    (hnodup : (opaques.entries.map (·.handle)).Nodup) {o : OpaqueType}
    (ho : o ∈ opaques.entries) : ∃! e, e ∈ opaques.entries ∧ e.handle = o.handle := by
  refine ⟨o, ⟨ho, rfl⟩, ?_⟩
  rintro e ⟨he, hhandle⟩
  exact List.inj_on_of_nodup_map hnodup he ho hhandle

section
variable {opaques : OpaqueTypes} (hnodup : (opaques.entries.map (·.handle)).Nodup)
include hnodup

/-- Types are mapped with the aliases that were chosen. -/
theorem TypeMapping.isNamed_map (c : CType) : (map opaques c).core.IsNamed opaques := by
  cases hcore : (map opaques c).core with
  | pointer _ _ => exact absurd hcore (SignatureType.core_ne_pointer _)
  | handle name =>
    obtain ⟨o, hkind, rfl⟩ := exists_opaqueType_of_core_map hcore
    exact existsUnique_handle hnodup (baseKind_eq_opaqueType hkind)
  | _ => trivial

theorem Declarator.isNamed_param (d : Declarator) :
    (d.param opaques).type.core.IsNamed opaques := by
  cases d with
  | callback name => trivial
  | plain name type => exact TypeMapping.isNamed_map hnodup type

theorem Header.Prototype.isNamed_function (p : Prototype) (stripped : Text) {t : SignatureType}
    (ht : t ∈ Bindings.signatureTypes (p.function opaques stripped)) :
    t.core.IsNamed opaques := by
  rcases List.mem_cons.1 ht with rfl | ht
  · exact TypeMapping.isNamed_map hnodup _
  · obtain ⟨q, hq, rfl⟩ := List.mem_map.1 ht
    obtain ⟨d, -, rfl⟩ := List.mem_map.1 hq
    exact d.isNamed_param hnodup

end

/-! ## 8. Closedness -/

namespace Artifact

/-- Every name that occurs in the types of the signatures is declared in the files, once. -/
structure IsClosed (b : Bindings) (traitText tableText : Text) : Prop where
  types : ∀ t ∈ b.types, t.core.IsNamed b.opaqueTypes
  /-- The alias of an opaque type is declared over the marker of that opaque type. -/
  alias_mem : ∀ o ∈ b.opaqueTypes.entries, ⟨o.handle, o.marker⟩ ∈ aliases traitText
  alias_once : ∀ o ∈ b.opaqueTypes.entries,
    ((aliases traitText).map (·.name)).count o.handle = 1
  marker_once : ∀ o ∈ b.opaqueTypes.entries, (markerEnums traitText).count o.marker = 1
  /-- A foreign type is imported in a file if and only if some signature needs it. -/
  char_import : ∀ file ∈ [traitText, tableText],
    (("c_char" : Text) ∈ imports file ↔ ∃ t ∈ b.types, t.core = .scalar .cChar)
  void_import : ∀ file ∈ [traitText, tableText],
    (("c_void" : Text) ∈ imports file ↔ ∃ t ∈ b.types, t.core = .untyped)

/-- Rendered files are closed if the chosen names are distinct and the types are mapped with
    them. -/
theorem isClosed_files {b : Bindings} (hb : IsReadable b)
    (hchosen : (OpaqueTypes.chosen b.opaqueTypes.entries).Nodup)
    (htypes : ∀ t ∈ b.types, t.core.IsNamed b.opaqueTypes) {runtimeCrate apiFile : Text}
    (hruntime : '\n' ∉ runtimeCrate) (hfile : '\n' ∉ apiFile) :
    IsClosed b (traitFile runtimeCrate b) (tableFile runtimeCrate apiFile b) := by
  have hroot := newline_notMem_runtimeRoot hruntime
  have hmodule := newline_notMem_siblingModule hfile
  have haliases : aliases (traitFile runtimeCrate b) =
      b.opaqueTypes.entries.map fun o => ⟨o.handle, o.marker⟩ :=
    aliases_traitFileLines hb hroot
  have hmarkers : markerEnums (traitFile runtimeCrate b) = b.opaqueTypes.entries.map (·.marker) :=
    markerEnums_traitFileLines hb hroot
  have himports : ∀ file ∈ [traitFile runtimeCrate b, tableFile runtimeCrate apiFile b],
      imports file = foreignNames b := by
    intro file hmem
    rcases List.mem_pair.1 hmem with rfl | rfl
    · exact imports_traitFileLines hb hroot
    · exact imports_tableFileLines hb hroot hmodule
  refine ⟨htypes, ?_, ?_, ?_, ?_, ?_⟩
  · intro o ho
    rw [haliases]
    exact List.mem_map_of_mem ho
  · intro o ho
    have hnames : (aliases (traitFile runtimeCrate b)).map (·.name) =
        b.opaqueTypes.entries.map (·.handle) := by
      rw [haliases, List.map_map]
      rfl
    rw [hnames]
    exact List.count_eq_one_of_mem ((OpaqueTypes.handles_sublist_chosen _).nodup hchosen)
      (List.mem_map_of_mem ho)
  · intro o ho
    rw [hmarkers]
    exact List.count_eq_one_of_mem ((OpaqueTypes.markers_sublist_chosen _).nodup hchosen)
      (List.mem_map_of_mem ho)
  · intro file hmem
    rw [himports file hmem]
    exact mem_foreignNames.1
  · intro file hmem
    rw [himports file hmem]
    exact mem_foreignNames.2

end Artifact

theorem Conventions.isNamed_of_mem_types {x : Conventions} {header : Text}
    {headerPath : Path} {package : Text}
    (hnodup : ((x.extract header).declarations.opaqueTypes.entries.map (·.handle)).Nodup)
    {t : SignatureType} (ht : t ∈ (x.bindings header headerPath package).types) :
    t.core.IsNamed (x.extract header).declarations.opaqueTypes := by
  obtain ⟨f, hf, ht⟩ := List.mem_flatMap.1 ht
  obtain ⟨found, -, rfl⟩ := exists_prototype_of_mem_functions hf
  exact found.prototype.isNamed_function hnodup x.stripPrefix ht

/-- **Generated code is closed.**  For every header, none of whose opaque types has a name that
    begins with a digit, all types of the signatures are built in, imported where they are
    needed, or declared once. -/
theorem closed_extract (x : Conventions) (header : Text) {headerPath : Path}
    {package runtimeCrate apiFile : Text}
    (hnames : ∀ name ∈ (x.extract header).declarations.opaqueTypes.nativeNames,
      Identifier.startsWithDigit name = false)
    (hpackage : '\n' ∉ package)
    (htitle : '\n' ∉ (x.bindings header headerPath package).headerTitle)
    (hruntime : '\n' ∉ runtimeCrate) (hfile : '\n' ∉ apiFile) :
    Artifact.IsClosed (x.bindings header headerPath package)
      (Artifact.traitFile runtimeCrate (x.bindings header headerPath package))
      (Artifact.tableFile runtimeCrate apiFile (x.bindings header headerPath package)) := by
  have hclean := x.isClean_extract header
  have hreadable : Artifact.IsReadable (x.bindings header headerPath package) :=
    ⟨hclean.opaqueTypes, hclean.functions, hpackage, htitle⟩
  -- the opaque types are named by the choice of handle names
  have hnodup := OpaqueTypes.nodup_reservedItems_append_chosen fun name hname =>
    hnames name (OpaqueTypes.mem_nativeNames_ofNames.2 hname)
  have hchosen : (OpaqueTypes.chosen
      (x.extract header).declarations.opaqueTypes.entries).Nodup :=
    (List.nodup_append.1 hnodup).2.1
  have hhandles := (OpaqueTypes.handles_sublist_chosen _).nodup hchosen
  exact Artifact.isClosed_files hreadable hchosen
    (fun t ht => x.isNamed_of_mem_types hhandles ht) hruntime hfile

/-- A header with an opaque type that has to be renamed, text and an untyped pointer. -/
theorem closed_extract_of_renamed :
    Artifact.IsClosed
      (Conventions.builtin.bindings
        ("typedef struct Api Api;" ++
          "OGA_EXPORT const char* OGA_API_CALL OgaName(const Api* api, void* data);")
        "include/api.h" "genai")
      (Artifact.traitFile "hdrbind_runtime" (Conventions.builtin.bindings
        ("typedef struct Api Api;" ++
          "OGA_EXPORT const char* OGA_API_CALL OgaName(const Api* api, void* data);")
        "include/api.h" "genai"))
      (Artifact.tableFile "hdrbind_runtime" "api.rs" (Conventions.builtin.bindings
        ("typedef struct Api Api;" ++
          "OGA_EXPORT const char* OGA_API_CALL OgaName(const Api* api, void* data);")
        "include/api.h" "genai")) :=
  closed_extract Conventions.builtin _ (by decide +kernel) (by decide) (by decide) (by decide)
    (by decide)

end HeaderBindings
