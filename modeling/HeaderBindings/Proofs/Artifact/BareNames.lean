import HeaderBindings.Proofs.Artifact.UniqueNames
import HeaderBindings.Proofs.SnakeCase

/-!
# Names without delimiters

Generated lines are punctuated by a few characters.  The names of a header have none of
them, and neither the method stem, nor snake case, nor escaping, nor the choice of a
unique name or of an alias adds one.  So a line can be cut at its punctuation whatever
the names are.
-/

namespace HeaderBindings

open Identifier

/-! ## 1. Delimiters -/

/-- The characters that generated lines are cut at. -/
def delimiters : List Char := [' ', '\n', '"', '(', ')', ',', ':', '/']

/-- A text without delimiters. -/
def IsBare (t : Text) : Prop := ∀ c ∈ t, c ∉ delimiters

theorem IsBare.not_mem {t : Text} (h : IsBare t) {c : Char} (hc : c ∈ delimiters) : c ∉ t :=
  fun hmem => h c hmem hc

theorem toNat_lt_of_mem_delimiters {c : Char} (h : c ∈ delimiters) : c.toNat < 0x80 := by
  have hall : ∀ d ∈ delimiters, d.toNat < 0x80 := by decide
  exact hall c h

theorem isIdent_of_mem_delimiters {c : Char} (h : c ∈ delimiters) : isIdent c = false := by
  have hall : ∀ d ∈ delimiters, isIdent d = false := by decide
  exact hall c h

theorem isBare_of_isWord {t : Text} (h : ∀ c ∈ t, isWord c = true) : IsBare t := by
  intro c hc hdelim
  have hident := isWord_eq_isIdent (toNat_lt_of_mem_delimiters hdelim)
  rw [h c hc, isIdent_of_mem_delimiters hdelim] at hident
  cases hident

/-! ## 2. Method stems and snake case -/

theorem mem_of_mem_methodStem {symbol start : Text} {c : Char}
    (h : c ∈ methodStem symbol start) : c ∈ symbol := by
  have hstripped : c ∈ stripOnce start symbol := List.mem_of_mem_filter h
  unfold stripOnce at hstripped
  split at hstripped
  · rename_i d rest hrest
    have hsplit := List.isPrefixOf?_eq_some_iff_append_eq.1 hrest
    rw [← hsplit]
    exact List.mem_append_right _ hstripped
  · exact hstripped

theorem IsBare.snakeFrom {t : Text} (h : IsBare t) (before : Option Char) :
    IsBare (snakeFrom before t) := by
  have hall : ∀ d ∈ delimiters, d.isLower = false ∧ d ≠ '_' := by decide
  intro d hd hdelim
  obtain ⟨hsmall, hunder⟩ := hall d hdelim
  exact h d (mem_of_mem_snakeFrom_of_ascii hd (toNat_lt_of_mem_delimiters hdelim) hsmall hunder)
    hdelim

/-! ## 3. Escaped, unique and alias names -/

theorem mem_of_mem_escape {name : Text} {c : Char} (hc : c ∈ delimiters)
    (h : c ∈ escape name) : c ∈ name := by
  have hadded : c ≠ '_' ∧ c ≠ 'r' ∧ c ≠ '#' := by
    have hall : ∀ d ∈ delimiters, d ≠ '_' ∧ d ≠ 'r' ∧ d ≠ '#' := by decide
    exact hall c hc
  unfold escape at h
  split at h
  · exact (List.mem_cons.1 h).resolve_left hadded.1
  · split at h
    · rcases List.mem_append.1 h with h | h
      · exact h
      · exact absurd (by simpa using h) hadded.1
    · split at h
      · rcases List.mem_append.1 h with h | h
        · have : c = 'r' ∨ c = '#' := by simpa using h
          exact absurd this (by simp [hadded])
        · exact h
      · exact h

theorem escape_ne_nil {name : Text} (h : name ≠ []) : escape name ≠ [] := by
  unfold escape
  split
  · simp
  · split
    · simp
    · split
      · simp
      · exact h

namespace Artifact

/-- Making names unique adds no delimiter. -/
theorem exists_mem_of_mem_unique {names : List Text} {name : Text} {c : Char}
    (hc : c ∈ delimiters) (hname : name ∈ unique names) (h : c ∈ name) :
    ∃ base ∈ names, c ∈ base := by
  have hadded : c ≠ '_' ∧ c.isDigit = false := by
    have hall : ∀ d ∈ delimiters, d ≠ '_' ∧ d.isDigit = false := by decide
    exact hall c hc
  rcases mem_of_mem_unique hname h with hbase | hunder | hdigit
  · exact hbase
  · exact absurd hunder hadded.1
  · rw [hadded.2] at hdigit
    cases hdigit

theorem ne_nil_of_mem_unique {names : List Text} (hne : ∀ base ∈ names, base ≠ [])
    {name : Text} (h : name ∈ unique names) : name ≠ [] := by
  obtain ⟨base, hbase, k, rfl⟩ := exists_suffixed_of_mem_uniqueFrom h
  unfold suffixed
  split
  · exact hne base hbase
  · simp

theorem isBare_of_mem_tableFields {fs : List Function} (hfs : ∀ f ∈ fs, IsBare f.stem)
    {field : Text} (h : field ∈ tableFields fs) : IsBare field := by
  obtain ⟨stem, hstem, rfl⟩ := List.mem_map.1 h
  intro c hc hdelim
  have hmem := mem_of_mem_escape hdelim hc
  obtain ⟨base, hbase, hcbase⟩ := exists_mem_of_mem_unique hdelim hstem hmem
  obtain ⟨f, hf, rfl⟩ := List.mem_map.1 hbase
  exact (hfs f hf).snakeFrom none c hcbase hdelim

theorem isBare_methodName {f : Function} (h : IsBare f.stem) : IsBare (methodName f) :=
  fun c hc hdelim => h c (mem_of_mem_escape hdelim hc) hdelim

theorem length_tableFields (fs : List Function) : (tableFields fs).length = fs.length := by
  rw [tableFields, List.length_map, fieldStems, length_unique, List.length_map]

end Artifact

theorem OpaqueTypes.candidate_ne_nil {name : Text} (h : name ≠ []) (copies : Nat) :
    OpaqueTypes.candidate name copies ≠ [] := by
  simp [candidate, h]

theorem IsBare.candidate {name : Text} (h : IsBare name) (copies : Nat) :
    IsBare (OpaqueTypes.candidate name copies) := by
  intro c hc hdelim
  rcases List.mem_append.1 hc with hc | hc
  · exact h c hc hdelim
  · obtain ⟨part, hpart, hc⟩ := List.mem_flatten.1 hc
    rw [(List.mem_replicate.1 hpart).2] at hc
    have hall : ∀ d ∈ ("Handle" : Text), d ∉ delimiters := by decide
    exact hall c hc hdelim

end HeaderBindings
