import HeaderBindings.Proofs.Artifact.BareNames

/-!
# Legal identifiers

What the generated language takes for an identifier is a rule of its own (`IsLegal`): letters,
digits and underscores, no digit in front, and none of the words that the language keeps to
itself unless it is written raw.  Some of these words have no raw form.

Escaping leads from every name of that alphabet to a legal identifier, and so does a suffix
behind it.  Beyond the alphabet neither helps: they add characters and take none away.  Hence
`isLegal_suffixed_escape_iff`.  Only names that have the sign of raw identifiers in them are
left out there, since they may be legal as they stand.
-/

namespace HeaderBindings

namespace Identifier

/-! ## 1. The rule -/

/-- The words of the language that are no identifiers: the keywords in use, among them the
    lone underscore, and the keywords that are reserved. -/
def languageWords : List Text :=
  (["_", "as", "async", "await", "break", "const", "continue", "crate", "dyn", "else", "enum",
    "extern", "false", "fn", "for", "if", "impl", "in", "let", "loop", "match", "mod", "move",
    "mut", "pub", "ref", "return", "self", "Self", "static", "struct", "super", "trait", "true",
    "type", "unsafe", "use", "where", "while",
    "abstract", "become", "box", "do", "final", "gen", "macro", "override", "priv", "try",
    "typeof", "unsized", "virtual", "yield"] : List String).map String.toList

/-- The words that have no raw form. -/
def unrawWords : List Text :=
  (["_", "crate", "self", "Self", "super"] : List String).map String.toList

/-- A text that is taken neither for a number nor for a word of the language. -/
structure IsNameLike (t : Text) : Prop where
  ne_nil : t ≠ []
  digit : startsWithDigit t = false
  word : t ∉ languageWords

instance (t : Text) : Decidable (IsNameLike t) :=
  decidable_of_iff (t ≠ [] ∧ startsWithDigit t = false ∧ t ∉ languageWords)
    ⟨fun h => ⟨h.1, h.2.1, h.2.2⟩, fun h => ⟨h.ne_nil, h.digit, h.word⟩⟩

inductive IsLegal : Text → Prop where
  | plain {t : Text} (name : IsNameLike t) (ident : ∀ c ∈ t, isIdent c = true) : IsLegal t
  | raw {t : Text} (ident : IsIdentText t) (digit : startsWithDigit t = false)
      (word : t ∉ unrawWords) : IsLegal ("r#" ++ t)

theorem IsLegal.ne_nil {t : Text} (h : IsLegal t) : t ≠ [] := by
  cases h with
  | plain name => exact name.ne_nil
  | raw => simp

theorem IsLegal.isIdent_or {t : Text} (h : IsLegal t) {c : Char} (hc : c ∈ t) :
    isIdent c = true ∨ c = '#' := by
  cases h with
  | plain _ ident => exact Or.inl (ident c hc)
  | raw ident =>
    rcases List.mem_append.1 hc with hc | hc
    · have hall : ∀ d ∈ "r#".toList, isIdent d = true ∨ d = '#' := by decide
      exact hall c hc
    · exact Or.inl (ident.2 c hc)

/-! ## 2. Escaping -/

theorem mem_escape {name : Text} {c : Char} (h : c ∈ name) : c ∈ escape name := by
  unfold escape
  split
  · exact List.mem_cons_of_mem _ h
  · split
    · exact List.mem_append_left _ h
    · split
      · exact List.mem_append_right _ h
      · exact h

/-- The tables of escaping know every word of the language. -/
theorem mem_of_mem_languageWords :
    ∀ w ∈ languageWords, w ∈ pathKeywords ∨ w ∈ keywords := by
  decide

/-- **No escaped name is a number or a word of the language.** -/
theorem isNameLike_escape {name : Text} (h : name ≠ []) : IsNameLike (escape name) := by
  unfold escape
  split
  · -- a digit: only the lone underscore begins with one, and it has nothing behind
    refine ⟨by simp, rfl, ?_⟩
    have hall : ∀ w ∈ languageWords, w.head? = some '_' → w.tail = [] := by decide
    intro hmem
    exact h (hall _ hmem rfl)
  · rename_i hdigit
    split
    · rename_i hpath
      have hall : ∀ w ∈ pathKeywords, IsNameLike (w ++ "_") := by decide
      exact hall name hpath
    · rename_i hpath
      split
      · rename_i hword
        have hall : ∀ w ∈ keywords, IsNameLike ("r#" ++ w) := by decide
        exact hall name hword
      · rename_i hword
        refine ⟨h, by simpa using hdigit, ?_⟩
        intro hmem
        rcases mem_of_mem_languageWords name hmem with hmem | hmem
        · exact hpath hmem
        · exact hword hmem

theorem isLegal_escape {name : Text} (h : IsIdentText name) : IsLegal (escape name) := by
  have hname := isNameLike_escape h.1
  by_cases hword : startsWithDigit name = false ∧ name ∉ pathKeywords ∧ name ∈ keywords
  · obtain ⟨hdigit, hpath, hword⟩ := hword
    have hescape : escape name = "r#" ++ name := by
      simp [escape, hdigit, hpath, hword]
    have hall : ∀ w ∈ keywords, w ∉ unrawWords := by decide
    rw [hescape]
    exact .raw h hdigit (hall name hword)
  · refine .plain hname ?_
    intro c hc
    unfold escape at hc
    split at hc
    · rcases List.mem_cons.1 hc with rfl | hc
      · decide
      · exact h.2 c hc
    · rename_i hdigit
      split at hc
      · rcases List.mem_append.1 hc with hc | hc
        · exact h.2 c hc
        · rw [show c = '_' by simpa using hc]
          decide
      · rename_i hpath
        split at hc
        · rename_i hkeyword
          exact absurd ⟨by simpa using hdigit, hpath, hkeyword⟩ hword
        · exact h.2 c hc

end Identifier

namespace Artifact

open Identifier

/-! ## 3. Suffixes -/

theorem mem_suffixed_of_mem {base : Text} {c : Char} (h : c ∈ base) (k : Nat) :
    c ∈ suffixed base k := by
  unfold suffixed
  split
  · exact h
  · exact List.mem_append_left _ (List.mem_append_left _ h)

theorem startsWithDigit_append_of_ne_nil {t : Text} (h : t ≠ []) (u : Text) :
    startsWithDigit (t ++ u) = startsWithDigit t := by
  rw [startsWithDigit, startsWithDigit, List.head?_append_of_ne_nil _ h]

/-- A suffix ends in a digit, as no word of the language does. -/
theorem suffixed_cases (base : Text) (k : Nat) :
    suffixed base k = base ∨
      ∃ tail, suffixed base k = base ++ tail ∧ (∀ c ∈ tail, isIdent c = true) ∧
        (base ++ tail).getLast?.any Char.isDigit = true := by
  unfold suffixed
  split
  · exact Or.inl rfl
  · have hdigits : Text.ofNat (k + 1) ≠ [] := Nat.toDigits_ne_nil
    refine Or.inr ⟨"_" ++ Text.ofNat (k + 1), List.append_assoc _ _ _, ?_, ?_⟩
    · intro c hc
      rcases List.mem_append.1 hc with hc | hc
      · rw [show c = '_' by simpa using hc]
        decide
      · simp [isIdent, Text.isDigit_of_mem_ofNat hc]
    · rw [← List.append_assoc, List.getLast?_append_of_ne_nil _ hdigits,
        List.getLast?_eq_some_getLast hdigits]
      exact Text.isDigit_of_mem_ofNat (List.getLast_mem hdigits)

theorem isNameLike_suffixed {base : Text} (h : IsNameLike base) (k : Nat) :
    IsNameLike (suffixed base k) := by
  rcases suffixed_cases base k with heq | ⟨tail, heq, -, hlast⟩
  · rw [heq]
    exact h
  · rw [heq]
    refine ⟨by simp [h.ne_nil], ?_, ?_⟩
    · rw [startsWithDigit_append_of_ne_nil h.ne_nil]
      exact h.digit
    · have hall : ∀ w ∈ languageWords, w.getLast?.any Char.isDigit = false := by decide
      intro hmem
      rw [hall _ hmem] at hlast
      cases hlast

theorem isLegal_suffixed {base : Text} (h : IsLegal base) (k : Nat) :
    IsLegal (suffixed base k) := by
  cases h with
  | plain name ident =>
    refine .plain (isNameLike_suffixed name k) ?_
    intro c hc
    rcases mem_suffixed hc with hc | rfl | hc
    · exact ident c hc
    · decide
    · simp [isIdent, hc]
  | @raw t ident digit word =>
    rcases suffixed_cases ("r#" ++ t) k with heq | ⟨tail, heq, htail, hlast⟩
    · rw [heq]
      exact .raw ident digit word
    · rw [List.append_assoc] at heq hlast
      have hne : t ++ tail ≠ [] := by simp [ident.1]
      rw [List.getLast?_append_of_ne_nil _ hne] at hlast
      rw [heq]
      refine .raw ⟨hne, ?_⟩ ?_ ?_
      · intro c hc
        rcases List.mem_append.1 hc with hc | hc
        · exact ident.2 c hc
        · exact htail c hc
      · rw [startsWithDigit_append_of_ne_nil ident.1]
        exact digit
      · have hall : ∀ w ∈ unrawWords, w.getLast?.any Char.isDigit = false := by decide
        intro hmem
        rw [hall _ hmem] at hlast
        cases hlast

/-- **An escaped name is legal** if and only if the name was written in the alphabet of
    identifiers, with a suffix or without. -/
theorem isLegal_suffixed_escape_iff {name : Text} (hne : name ≠ []) (hhash : '#' ∉ name)
    (k : Nat) : IsLegal (suffixed (escape name) k) ↔ ∀ c ∈ name, isIdent c = true := by
  constructor
  · intro h c hc
    rcases h.isIdent_or (mem_suffixed_of_mem (mem_escape hc) k) with hident | rfl
    · exact hident
    · exact absurd hc hhash
  · intro h
    exact isLegal_suffixed (isLegal_escape ⟨hne, h⟩) k

end Artifact

end HeaderBindings
