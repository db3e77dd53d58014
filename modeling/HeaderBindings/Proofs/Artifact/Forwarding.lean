import HeaderBindings.Proofs.Artifact.Files

/-!
# Forwarding is faithful

The fields of the function table, the symbols that are resolved, the methods that call the
pointers and the methods that the trait asks for are written by separate loops.  Here they
are compared as they are read back from the two files: all four are aligned with the
functions, every method has the type of the pointer it calls, and it hands on each of its
parameters once and in order (`forwards_extract`).
-/

namespace HeaderBindings

namespace Artifact

/-! ## 1. Alignment -/

/-- A table and the methods of a trait that stand for some functions, in their order. -/
structure Forwards (fs : List Function) (table : Table) (methods : List Signature) : Prop where
  length_fields : table.fields.length = fs.length
  length_entries : table.entries.length = fs.length
  length_methods : table.methods.length = fs.length
  /-- Entries and methods use the fields that are declared. -/
  entry_fields : table.entries.map (·.field) = table.fields.map (·.name)
  method_fields : table.methods.map (·.field) = table.fields.map (·.name)
  symbols : table.entries.map (·.symbol) = fs.map (·.symbol)
  names : table.methods.map (·.signature.name) = fs.map methodName
  /-- Every method has the parameter types and the return type of the pointer it calls. -/
  types : table.methods.map (·.signature.callType) = table.fields.map (·.type)
  /-- These are the types of the function. -/
  call_types : table.fields.map (·.type) = fs.map callType
  /-- The signatures of the methods, their texts included, are those of the trait. -/
  signatures : table.methods.map (·.signature) = methods
  /-- A method hands on its own parameters, each once and in order. -/
  arguments : ∀ m ∈ table.methods, m.arguments = m.signature.params.map (·.1)
  arguments_nodup : ∀ m ∈ table.methods, m.arguments.Nodup

theorem length_entries (fs : List Function) : (entries fs).length = fs.length := by
  rw [entries, List.length_zip, length_tableFields, Nat.min_self]

theorem map_fst_entries (fs : List Function) : (entries fs).map (·.1) = fs :=
  List.map_fst_zip (Nat.le_of_eq (length_tableFields fs).symm)

theorem map_entries {β : Type} (fs : List Function) (g : Function → β) :
    (entries fs).map (fun e => g e.1) = fs.map g := by
  have hmap : (entries fs).map (fun e => g e.1) = ((entries fs).map (·.1)).map g := by
    rw [List.map_map]
    rfl
  rw [hmap, map_fst_entries]

theorem callType_signature (f : Function) : (signature f).callType = callType f := by
  rw [Signature.callType, signature, map_snd_declaredParams]
  rfl

/-- What is rendered from functions stands for them, whatever the functions are. -/
theorem forwards_tableOf (fs : List Function) : Forwards fs (tableOf fs) (fs.map signature) where
  length_fields := by rw [tableOf, List.length_map, length_entries]
  length_entries := by rw [tableOf, List.length_map, length_entries]
  length_methods := by rw [tableOf, List.length_map, length_entries]
  entry_fields := by
    simp only [tableOf, List.map_map]
    rfl
  method_fields := by
    simp only [tableOf, List.map_map]
    rfl
  symbols := by
    simp only [tableOf, List.map_map]
    exact map_entries fs (·.symbol)
  names := by
    simp only [tableOf, List.map_map]
    exact map_entries fs methodName
  types := by
    simp only [tableOf, List.map_map]
    apply List.map_congr_left
    intro e he
    exact callType_signature e.1
  call_types := by
    simp only [tableOf, List.map_map]
    exact map_entries fs callType
  signatures := by
    simp only [tableOf, List.map_map]
    exact map_entries fs signature
  arguments := by
    intro m hm
    obtain ⟨e, -, rfl⟩ := List.mem_map.1 hm
    exact (map_fst_declaredParams e.1).symm
  arguments_nodup := by
    intro m hm
    obtain ⟨e, -, rfl⟩ := List.mem_map.1 hm
    exact nodup_unique _

end Artifact

/-! ## 2. Names of modules and of the runtime crate -/

namespace Path

theorem mem_of_mem_segments {p segment : Text} {c : Char} (hsegment : segment ∈ segments p)
    (hc : c ∈ segment) : c ∈ p := by
  have hjoin : Text.joinWith ['/'] (segments p) = p := List.intercalate_splitOn '/'
  rw [← hjoin]
  exact Text.mem_joinWith hsegment hc

theorem name_mem_segments {p name : Text} (h : Component.name name ∈ components p) :
    name ∈ segments p := by
  rcases List.mem_append.1 h with h | h
  · split at h
    · cases List.mem_singleton.1 h
    · split at h
      · cases List.mem_singleton.1 h
      · cases h
  · obtain ⟨segment, hsegment, hcomponent⟩ := List.mem_filterMap.1 h
    unfold segmentComponent? at hcomponent
    split at hcomponent
    · cases hcomponent
    · split at hcomponent
      · cases hcomponent
      · cases hcomponent
        exact hsegment

theorem mem_of_mem_stem {name : Text} {c : Char} (hc : c ∈ stem name) : c ∈ name := by
  unfold stem at hc
  simp only at hc
  split at hc
  · exact hc
  · rename_i d front hdrop
    split at hc
    · exact hc
    · have hmem : c ∈ name.reverse.dropWhile (· ≠ '.') := by
        rw [hdrop]
        exact List.mem_cons_of_mem _ (List.mem_reverse.1 hc)
      exact List.mem_reverse.1 ((List.dropWhile_sublist _).subset hmem)

theorem mem_of_mem_fileStem {p name : Text} (h : fileStem? p = some name) {c : Char}
    (hc : c ∈ name) : c ∈ p := by
  obtain ⟨file, hfile, rfl⟩ := Option.map_eq_some_iff.1 h
  unfold fileName? at hfile
  split at hfile
  · rename_i last hlast
    cases hfile
    have hsegment := name_mem_segments (List.mem_of_getLast? hlast)
    exact mem_of_mem_segments hsegment (mem_of_mem_stem hc)
  · cases hfile

end Path

namespace Artifact

theorem newline_notMem_runtimeRoot {runtimeCrate : Text} (h : '\n' ∉ runtimeCrate) :
    '\n' ∉ runtimeRoot runtimeCrate := by
  unfold runtimeRoot
  simp only
  split
  · exact h
  · simpa using h

theorem newline_notMem_siblingModule {file : Text} (h : '\n' ∉ file) :
    '\n' ∉ siblingModule file := by
  intro hmem
  have hstem := mem_of_mem_escape (by decide) hmem
  cases hname : Path.fileStem? file with
  | none =>
    rw [hname] at hstem
    exact h hstem
  | some name =>
    rw [hname] at hstem
    exact h (Path.mem_of_mem_fileStem hname hstem)

end Artifact

/-! ## 3. Faithful forwarding -/

/-- What the files are rendered from for a header. -/
def Conventions.bindings (x : Conventions) (header : Text) (headerPath : Path)
    (package : Text) : Bindings where
  headerPath := headerPath
  package := package
  opaqueTypes := (x.extract header).declarations.opaqueTypes
  functions := (x.extract header).declarations.functions

/-- **Forwarding is faithful.**  For every header, the two files that are rendered for it
    can be read back, and what is read in them is aligned with the extracted functions. -/
theorem forwards_extract (x : Conventions) (header : Text) {headerPath : Path}
    {package runtimeCrate apiFile : Text} (hpackage : '\n' ∉ package)
    (htitle : '\n' ∉ (x.bindings header headerPath package).headerTitle)
    (hruntime : '\n' ∉ runtimeCrate) (hfile : '\n' ∉ apiFile) :
    ∃ table methods,
      Artifact.table? (Artifact.tableFile runtimeCrate apiFile
        (x.bindings header headerPath package)) = some table ∧
      Artifact.trait? (Artifact.traitFile runtimeCrate
        (x.bindings header headerPath package)) = some methods ∧
      Artifact.Forwards (x.extract header).declarations.functions table methods := by
  have hclean := x.isClean_extract header
  have hreadable : Artifact.IsReadable (x.bindings header headerPath package) :=
    ⟨hclean.opaqueTypes, hclean.functions, hpackage, htitle⟩
  have hroot := Artifact.newline_notMem_runtimeRoot hruntime
  have hmodule := Artifact.newline_notMem_siblingModule hfile
  exact ⟨_, _, Artifact.table?_unlines hreadable hroot hmodule,
    Artifact.trait?_unlines hreadable hroot, Artifact.forwards_tableOf _⟩

/-- A header with a handle, two parameters of one name and a name that is a keyword. -/
theorem forwards_extract_of_keyword :
    ∃ table methods,
      Artifact.table? (Artifact.tableFile "hdrbind_runtime" "api.rs" (Conventions.builtin.bindings
        ("typedef struct OgaModel OgaModel;" ++
          "OGA_EXPORT const char* OGA_API_CALL OgaMatch(OgaModel* type, int n, int n);")
        "include/model.h" "genai")) = some table ∧
      Artifact.trait? (Artifact.traitFile "hdrbind_runtime" (Conventions.builtin.bindings
        ("typedef struct OgaModel OgaModel;" ++
          "OGA_EXPORT const char* OGA_API_CALL OgaMatch(OgaModel* type, int n, int n);")
        "include/model.h" "genai")) = some methods ∧
      Artifact.Forwards (Conventions.builtin.extract
        ("typedef struct OgaModel OgaModel;" ++
          "OGA_EXPORT const char* OGA_API_CALL OgaMatch(OgaModel* type, int n, int n);")
        ).declarations.functions table methods :=
  forwards_extract Conventions.builtin _ (by decide) (by decide) (by decide) (by decide)

end HeaderBindings
