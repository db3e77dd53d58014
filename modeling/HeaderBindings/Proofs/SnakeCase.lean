import HeaderBindings.Identifier
import HeaderBindings.Proofs.Text.Identifiers
import Mathlib.Data.List.Chain

/-!
# Snake case

A character stands in the snake case of a name as its small form, with an underscore in front of
it at most, and without one at the beginning (`snakeChar_cases`).  No small form has an underscore
of its own, since lowercasing brings in no ASCII character but small letters
(`eq_of_mem_lowercase`).

So snake case can be read back up to the case of letters: without the underscores it is the name
without its underscores in small letters (`withoutUnderscores_snakeFrom`).  Of a name without
underscores, those of its snake case stand between other characters and never side by side
(`hasInnerUnderscores_snakeCase`).
-/

namespace HeaderBindings

open Identifier

/-! ## 1. Lowercasing -/

/-- The small forms of a range of capitals are characters beyond ASCII, or it is one
    capital with a small ASCII letter. -/
theorem target_of_mem_capitalRanges :
    ∀ r ∈ capitalRanges,
      (0x80 ≤ r.2.2.2 ∧ (r.2.2.2 + (r.2.1 - r.1) < 0xD800 ∨
        (0xDFFF < r.2.2.2 ∧ r.2.2.2 + (r.2.1 - r.1) < 0x110000))) ∨
      (r.1 = r.2.1 ∧ (Char.ofNat r.2.2.2).isLower = true) := by
  decide +kernel

theorem toNat_ofNat {n : Nat} (h : n < 0xD800 ∨ (0xDFFF < n ∧ n < 0x110000)) :
    (Char.ofNat n).toNat = n := by
  have hchar : Char.ofNat n = Char.ofNatAux n h := dif_pos h
  rw [hchar]
  rfl

/-- **Lowercasing brings in no ASCII character** but small letters. -/
theorem eq_of_mem_lowercase {c d : Char} (h : d ∈ lowercase c) (hascii : d.toNat < 0x80)
    (hsmall : d.isLower = false) : d = c := by
  unfold lowercase at h
  split at h
  · -- an ASCII character
    rename_i hc
    rw [List.mem_singleton.1 h] at hsmall ⊢
    exact of_ascii (p := fun c => c.toLower.isLower = false → c.toLower = c) (by decide) hc hsmall
  · split at h
    · -- the capital I with a dot above
      rcases List.mem_pair.1 h with rfl | rfl
      · exact absurd hsmall (by decide)
      · exact absurd hascii (by decide)
    · split at h
      · -- a capital of the table
        rename_i first last step target hrange
        have hmem := List.mem_of_find?_eq_some hrange
        have hin := List.find?_some hrange
        simp only [CodePoints.inStride, Bool.and_eq_true, decide_eq_true_eq] at hin
        rw [List.mem_singleton.1 h] at hascii hsmall
        rcases target_of_mem_capitalRanges _ hmem with ⟨hbeyond, hvalid⟩ | ⟨hone, hletter⟩
        · simp only at hbeyond hvalid
          rw [toNat_ofNat (by omega)] at hascii
          omega
        · simp only at hone hletter
          have hfirst : c.toNat - first = 0 := by omega
          rw [hfirst, Nat.add_zero, hletter] at hsmall
          cases hsmall
      · exact List.mem_singleton.1 h

theorem lowercase_ne_nil (c : Char) : lowercase c ≠ [] := by
  unfold lowercase
  split
  · simp
  · split
    · simp
    · split <;> simp

namespace Identifier

/-- A character as it stands in snake case. -/
def smallForm (c : Char) : Text := if isUpper c then lowercase c else [c]

/-- A name with all its capitals in small letters. -/
def lowerCapitals (name : Text) : Text := name.flatMap smallForm

theorem smallForm_ne_nil (c : Char) : smallForm c ≠ [] := by
  unfold smallForm
  split
  · exact lowercase_ne_nil c
  · exact List.cons_ne_nil c []

theorem eq_or_mem_lowercase_of_mem_smallForm {c d : Char} (h : d ∈ smallForm c) :
    d = c ∨ d ∈ lowercase c := by
  unfold smallForm at h
  split at h
  · exact Or.inr h
  · exact Or.inl (List.mem_singleton.1 h)

theorem underscore_notMem_smallForm {c : Char} (h : c ≠ '_') : '_' ∉ smallForm c := by
  intro hmem
  rcases eq_or_mem_lowercase_of_mem_smallForm hmem with heq | hlower
  · exact h heq.symm
  · exact h (eq_of_mem_lowercase hlower (by decide) (by decide)).symm

theorem smallForm_of_ascii {c : Char} (h : c.toNat < 0x80) : smallForm c = [c.toLower] :=
  of_ascii (p := fun c => smallForm c = [c.toLower]) (by decide) h

theorem isUpper_toLower {c : Char} (h : c.toNat < 0x80) : isUpper c.toLower = false :=
  of_ascii (p := fun c => isUpper c.toLower = false) (by decide) h

theorem lowerCapitals_of_ascii {name : Text} (h : IsAscii name) :
    lowerCapitals name = name.map Char.toLower := by
  rw [lowerCapitals, List.flatMap_congr fun c hc => smallForm_of_ascii (h c hc)]
  exact List.flatMap_pure_eq_map _ _

/-! ## 2. Characters in snake case -/

/-- **A character in snake case** is its small form.  An underscore can be in front of a capital,
    but not of the first character. -/
theorem snakeChar_cases (before : Option Char) (c : Char) (after : Option Char) :
    snakeChar before c after = smallForm c ∨
      (before ≠ none ∧ c ≠ '_' ∧ snakeChar before c after = '_' :: smallForm c) := by
  unfold snakeChar smallForm
  split
  · rename_i hupper
    split
    · rename_i hopens
      refine Or.inr ⟨?_, ?_, rfl⟩
      · rintro rfl
        cases hopens
      · rintro rfl
        exact absurd hupper (by decide)
    · exact Or.inl rfl
  · exact Or.inl rfl

theorem snakeChar_ne_nil (before : Option Char) (c : Char) (after : Option Char) :
    snakeChar before c after ≠ [] := by
  rcases snakeChar_cases before c after with h | ⟨-, -, h⟩
  · rw [h]
    exact smallForm_ne_nil c
  · rw [h]
    exact List.cons_ne_nil _ _

theorem snakeFrom_ne_nil {t : Text} (h : t ≠ []) (before : Option Char) :
    snakeFrom before t ≠ [] := by
  cases t with
  | nil => exact absurd rfl h
  | cons c t =>
    intro hnil
    exact snakeChar_ne_nil _ _ _ (List.append_eq_nil_iff.1 hnil).1

theorem snakeCase_eq_nil_iff {name : Text} : snakeCase name = [] ↔ name = [] := by
  constructor
  · intro h
    by_contra hne
    exact snakeFrom_ne_nil hne none h
  · rintro rfl
    rfl

/-- What snake case is made of: underscores and the small forms of the characters. -/
theorem mem_of_mem_snakeFrom {t : Text} {before : Option Char} {d : Char}
    (h : d ∈ snakeFrom before t) : d = '_' ∨ ∃ c ∈ t, d ∈ smallForm c := by
  induction t generalizing before with
  | nil => cases h
  | cons c t ih =>
    rcases List.mem_append.1 h with h | h
    · rcases snakeChar_cases before c t.head? with hchar | ⟨-, -, hchar⟩
      · exact Or.inr ⟨c, List.mem_cons_self, hchar ▸ h⟩
      · rw [hchar] at h
        rcases List.mem_cons.1 h with h | h
        · exact Or.inl h
        · exact Or.inr ⟨c, List.mem_cons_self, h⟩
    · rcases ih h with h | ⟨e, he, h⟩
      · exact Or.inl h
      · exact Or.inr ⟨e, List.mem_cons_of_mem _ he, h⟩

/-- An ASCII character that is neither a small letter nor an underscore is in the snake
    case of a name only if it is in the name. -/
theorem mem_of_mem_snakeFrom_of_ascii {t : Text} {before : Option Char} {d : Char}
    (h : d ∈ snakeFrom before t) (hascii : d.toNat < 0x80) (hsmall : d.isLower = false)
    (hunder : d ≠ '_') : d ∈ t := by
  rcases mem_of_mem_snakeFrom h with h | ⟨c, hc, h⟩
  · exact absurd h hunder
  · rcases eq_or_mem_lowercase_of_mem_smallForm h with rfl | h
    · exact hc
    · rw [eq_of_mem_lowercase h hascii hsmall]
      exact hc

theorem isIdent_of_mem_snakeCase {name : Text} (h : ∀ c ∈ name, isIdent c = true) {d : Char}
    (hd : d ∈ snakeCase name) : isIdent d = true := by
  rcases mem_of_mem_snakeFrom hd with rfl | ⟨c, hc, hsmall⟩
  · decide
  · have hascii := toNat_lt_of_isIdent (h c hc)
    rw [smallForm_of_ascii hascii, List.mem_singleton] at hsmall
    rw [hsmall]
    exact of_ascii (p := fun c => isIdent c = true → isIdent c.toLower = true) (by decide) hascii
      (h c hc)

/-! ## 3. Reading snake case back -/

theorem withoutUnderscores_cons (c : Char) (t : Text) :
    withoutUnderscores (c :: t) = if c = '_' then withoutUnderscores t
      else c :: withoutUnderscores t := by
  by_cases hc : c = '_' <;> simp [withoutUnderscores, hc]

theorem withoutUnderscores_append (s t : Text) :
    withoutUnderscores (s ++ t) = withoutUnderscores s ++ withoutUnderscores t :=
  List.filter_append _ _

theorem withoutUnderscores_eq_self {t : Text} (h : '_' ∉ t) : withoutUnderscores t = t := by
  rw [withoutUnderscores, List.filter_eq_self]
  intro c hc
  exact bne_iff_ne.2 fun heq => h (heq ▸ hc)

theorem withoutUnderscores_snakeChar {c : Char} (h : c ≠ '_') (before after : Option Char) :
    withoutUnderscores (snakeChar before c after) = smallForm c := by
  have hself := withoutUnderscores_eq_self (underscore_notMem_smallForm h)
  rcases snakeChar_cases before c after with hchar | ⟨-, -, hchar⟩
  · rw [hchar, hself]
  · rw [hchar, withoutUnderscores_cons, if_pos rfl, hself]

/-- **Snake case is read back** up to underscores and the case of letters. -/
theorem withoutUnderscores_snakeFrom (before : Option Char) (t : Text) :
    withoutUnderscores (snakeFrom before t) = lowerCapitals (withoutUnderscores t) := by
  induction t generalizing before with
  | nil => rfl
  | cons c t ih =>
    rw [snakeFrom, withoutUnderscores_append, ih, withoutUnderscores_cons]
    split
    · rename_i hc
      rw [hc]
      rfl
    · rename_i hc
      rw [withoutUnderscores_snakeChar hc]
      rfl

/-! ## 4. Where underscores are -/

/-- Underscores stand between other characters, one at a time. -/
structure HasInnerUnderscores (t : Text) : Prop where
  first : t.head? ≠ some '_'
  last : t.getLast? ≠ some '_'
  single : ¬ ['_', '_'] <:+: t

/-- Not both of two neighbours are underscores. -/
def IsApart (a b : Char) : Prop := a ≠ '_' ∨ b ≠ '_'

theorem isChain_of_notMem {t : Text} (h : '_' ∉ t) : t.IsChain IsApart := by
  induction t with
  | nil => exact List.IsChain.nil
  | cons c t ih =>
    rw [List.mem_cons, not_or] at h
    exact List.isChain_cons.2 ⟨fun _ _ => Or.inl (Ne.symm h.1), ih h.2⟩

/-- An underscore has a character of the name behind it. -/
theorem getLast?_snakeChar_ne {c : Char} (h : c ≠ '_') (before after : Option Char) :
    (snakeChar before c after).getLast? ≠ some '_' := by
  have hsmall : (smallForm c).getLast? ≠ some '_' :=
    fun hlast => underscore_notMem_smallForm h (List.mem_of_getLast? hlast)
  rcases snakeChar_cases before c after with hchar | ⟨-, -, hchar⟩
  · rwa [hchar]
  · rwa [hchar, List.getLast?_cons_of_ne_nil (smallForm_ne_nil c)]

theorem isChain_snakeChar {c : Char} (h : c ≠ '_') (before after : Option Char) :
    (snakeChar before c after).IsChain IsApart := by
  have hunder := underscore_notMem_smallForm h
  rcases snakeChar_cases before c after with hchar | ⟨-, -, hchar⟩
  · rw [hchar]
    exact isChain_of_notMem hunder
  · rw [hchar]
    refine List.isChain_cons.2 ⟨fun d hd => Or.inr ?_, isChain_of_notMem hunder⟩
    rintro rfl
    exact hunder (List.mem_of_head? hd)

theorem getLast?_snakeFrom_ne {t : Text} (h : '_' ∉ t) (before : Option Char) :
    (snakeFrom before t).getLast? ≠ some '_' := by
  induction t generalizing before with
  | nil => simp [snakeFrom]
  | cons c t ih =>
    rw [List.mem_cons, not_or] at h
    rw [snakeFrom]
    cases t with
    | nil =>
      rw [snakeFrom, List.append_nil]
      exact getLast?_snakeChar_ne (Ne.symm h.1) _ _
    | cons d t =>
      rw [List.getLast?_append_of_ne_nil _ (snakeFrom_ne_nil (by simp) _)]
      exact ih h.2 _

theorem isChain_snakeFrom {t : Text} (h : '_' ∉ t) (before : Option Char) :
    (snakeFrom before t).IsChain IsApart := by
  induction t generalizing before with
  | nil => exact List.IsChain.nil
  | cons c t ih =>
    rw [List.mem_cons, not_or] at h
    have hc : c ≠ '_' := Ne.symm h.1
    refine List.isChain_append.2 ⟨isChain_snakeChar hc _ _, ih h.2 _, ?_⟩
    -- what stands for `c` does not end in an underscore
    intro a ha b _
    refine Or.inl ?_
    rintro rfl
    exact getLast?_snakeChar_ne hc _ _ ha

theorem head?_snakeCase_ne {name : Text} (h : '_' ∉ name) :
    (snakeCase name).head? ≠ some '_' := by
  cases name with
  | nil => simp [snakeCase, snakeFrom]
  | cons c name =>
    rw [List.mem_cons, not_or] at h
    rw [snakeCase, snakeFrom, List.head?_append_of_ne_nil _ (snakeChar_ne_nil _ _ _)]
    rcases snakeChar_cases none c name.head? with hchar | ⟨hnone, -⟩
    · rw [hchar]
      exact fun hfirst => underscore_notMem_smallForm (Ne.symm h.1) (List.mem_of_head? hfirst)
    · exact absurd rfl hnone

/-- **Underscores are put between characters**, if the name has none of its own. -/
theorem hasInnerUnderscores_snakeCase {name : Text} (h : '_' ∉ name) :
    HasInnerUnderscores (snakeCase name) where
  first := head?_snakeCase_ne h
  last := getLast?_snakeFrom_ne h none
  single hdouble := by
    have hchain := isChain_snakeFrom h none
    have hpair := hchain.infix hdouble
    rw [List.isChain_pair] at hpair
    exact hpair.elim (· rfl) (· rfl)

/-! ## 5. Snake case of snake case -/

/-- A name without capitals stays as it is. -/
theorem snakeFrom_of_forall {t : Text} (h : ∀ c ∈ t, isUpper c = false) (before : Option Char) :
    snakeFrom before t = t := by
  induction t generalizing before with
  | nil => rfl
  | cons c t ih =>
    have hchar : snakeChar before c t.head? = [c] := by
      rw [snakeChar, h c List.mem_cons_self]
      rfl
    rw [snakeFrom, hchar, ih fun d hd => h d (List.mem_cons_of_mem _ hd)]
    rfl

theorem isUpper_of_mem_snakeCase {name : Text} (h : IsAscii name) {d : Char}
    (hd : d ∈ snakeCase name) : isUpper d = false := by
  rcases mem_of_mem_snakeFrom hd with rfl | ⟨c, hc, hsmall⟩
  · decide
  · rw [smallForm_of_ascii (h c hc), List.mem_singleton] at hsmall
    rw [hsmall]
    exact isUpper_toLower (h c hc)

/-- **Snake case loses nothing but the case of letters.**  Underscores apart, it is the name in
    small letters, and of a name without underscores it has them between other characters only,
    one at a time.  In the snake case of an ASCII name there is no capital, so that it is its own
    snake case; and two such names without underscores that have one snake case are equal up to
    the case of their letters. -/
theorem snakeCase_keeps_letters (name : Text) :
    withoutUnderscores (snakeCase name) = lowerCapitals (withoutUnderscores name) ∧
      ('_' ∉ name → HasInnerUnderscores (snakeCase name)) ∧
      (IsAscii name →
        (∀ d ∈ snakeCase name, isUpper d = false) ∧ snakeCase (snakeCase name) = snakeCase name) ∧
      ∀ other, IsAscii name → IsAscii other → '_' ∉ name → '_' ∉ other →
        snakeCase name = snakeCase other → name.map Char.toLower = other.map Char.toLower := by
  refine ⟨withoutUnderscores_snakeFrom none name, hasInnerUnderscores_snakeCase, ?_, ?_⟩
  · intro hascii
    have hsmall : ∀ d ∈ snakeCase name, isUpper d = false :=
      fun d hd => isUpper_of_mem_snakeCase hascii hd
    exact ⟨hsmall, snakeFrom_of_forall hsmall none⟩
  · intro other hname hother hunder hunder' hsame
    have hread : ∀ t : Text, IsAscii t → '_' ∉ t →
        withoutUnderscores (snakeCase t) = t.map Char.toLower := by
      intro t hascii ht
      rw [snakeCase, withoutUnderscores_snakeFrom, withoutUnderscores_eq_self ht,
        lowerCapitals_of_ascii hascii]
    rw [← hread name hname hunder, hsame, hread other hother hunder']

/-- Two names that differ in the case of a run of capitals. -/
theorem snakeCase_keeps_letters_of_run :
    let name : Text := "GetOutputID2D"
    let other : Text := "GetOutputId2D"
    IsAscii name ∧ IsAscii other ∧ '_' ∉ name ∧ '_' ∉ other ∧ snakeCase name = snakeCase other ∧
      HasInnerUnderscores (snakeCase name) ∧ snakeCase (snakeCase name) = snakeCase name ∧
      name.map Char.toLower = other.map Char.toLower := by
  intro name other
  have hname : IsAscii name := by decide
  have hother : IsAscii other := by decide
  have hunder : '_' ∉ name := by decide
  have hunder' : '_' ∉ other := by decide
  have hsame : snakeCase name = snakeCase other := by decide
  obtain ⟨-, hinner, hascii, heq⟩ := snakeCase_keeps_letters name
  exact ⟨hname, hother, hunder, hunder', hsame, hinner hunder, (hascii hname).2,
    heq other hname hother hunder hunder' hsame⟩

/-- A capital whose small form has two characters. -/
example : snakeCase ['a', dottedCapitalI, 'X'] = ['a', '_', 'i', Char.ofNat 0x307, 'x'] := by
  decide

end Identifier

end HeaderBindings
