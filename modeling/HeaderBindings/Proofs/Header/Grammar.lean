import HeaderBindings.Header.Prototype
import Mathlib.Data.List.Basic
import Mathlib.Data.List.TakeDrop

/-!
# The grammar that the readers accept

Typedefs and prototypes are read by chains of small readers, each of which takes the
beginning of a text and hands on the rest.  This module says of every reader exactly
which texts it accepts: `f t = some (a, rest)` holds iff `t` is the written form of `a`
followed by `rest`.  So nothing further on has to open a reader.

The two results about whole declarations are `Typedef.read?_eq_some_iff` and
`Prototype.declared?_eq_some_iff`; the second one stops short of the return type, whose
search `Prototype.body?_eq_some_iff` describes: the type ends at the first place where
the rest of the declaration can be read (`Prototype.IsReturnType`).
-/

namespace HeaderBindings.Header

/-! ## 1. Fixed words and runs -/

theorem isPrefixOf?_eq_some_iff {p t rest : Text} :
    p.isPrefixOf? t = some rest ↔ t = p ++ rest := by
  rw [List.isPrefixOf?_eq_some_iff_append_eq, eq_comm]

theorem space?_eq_some_iff {t rest : Text} : space? t = some rest ↔ t = ' ' :: rest := by
  unfold space?
  split
  · simp
  · rename_i h
    constructor
    · intro he
      cases he
    · intro he
      exact absurd he (h rest)

/-- A text is cut at the first place where a character stands in one way only. -/
theorem append_cons_inj {c : Char} {x y a b : Text} (hx : c ∉ x) (ha : c ∉ a)
    (h : x ++ c :: y = a ++ c :: b) : x = a ∧ y = b := by
  induction x generalizing a with
  | nil =>
    cases a with
    | nil => exact ⟨rfl, (List.cons_eq_cons.1 h).2⟩
    | cons d a =>
      have := (List.cons_eq_cons.1 h).1
      exact absurd (by simp [this]) ha
  | cons e x ih =>
    rw [List.mem_cons, not_or] at hx
    cases a with
    | nil =>
      have := (List.cons_eq_cons.1 h).1
      exact absurd this.symm hx.1
    | cons d a =>
      rw [List.mem_cons, not_or] at ha
      rw [List.cons_append, List.cons_append, List.cons_eq_cons] at h
      obtain ⟨rfl, hy⟩ := ih hx.2 ha.2 h.2
      exact ⟨by rw [h.1], hy⟩

/-- A run of characters of a class, as long as it can be. -/
theorem span_eq_iff {α : Type} {p : α → Bool} {t a b : List α} :
    t.span p = (a, b) ↔ t = a ++ b ∧ (∀ c ∈ a, p c = true) ∧ b.head?.any p = false := by
  rw [List.span_eq_takeWhile_dropWhile, Prod.mk.injEq]
  induction t generalizing a with
  | nil =>
    constructor
    · rintro ⟨rfl, rfl⟩
      simp
    · rintro ⟨h, -, -⟩
      obtain ⟨rfl, rfl⟩ := List.append_eq_nil_iff.1 h.symm
      simp
  | cons c t ih =>
    by_cases hc : p c = true
    · rw [List.takeWhile_cons_of_pos hc, List.dropWhile_cons_of_pos hc]
      constructor
      · rintro ⟨rfl, hb⟩
        obtain ⟨ht, hall, hhead⟩ := ih.1 ⟨rfl, hb⟩
        refine ⟨by rw [List.cons_append, ← ht], ?_, hhead⟩
        intro d hd
        rcases List.mem_cons.1 hd with rfl | hd
        · exact hc
        · exact hall d hd
      · rintro ⟨ht, hall, hhead⟩
        cases a with
        | nil =>
          rw [List.nil_append] at ht
          subst ht
          simp [hc] at hhead
        | cons d a =>
          obtain ⟨rfl, htail⟩ := List.cons_eq_cons.1 ht
          obtain ⟨h₁, h₂⟩ :=
            ih.2 ⟨htail, fun e he => hall e (List.mem_cons_of_mem _ he), hhead⟩
          exact ⟨by rw [h₁], h₂⟩
    · rw [List.takeWhile_cons_of_neg hc, List.dropWhile_cons_of_neg hc]
      constructor
      · rintro ⟨rfl, rfl⟩
        simpa using hc
      · rintro ⟨ht, hall, -⟩
        cases a with
        | nil => exact ⟨rfl, ht⟩
        | cons d a =>
          obtain ⟨rfl, -⟩ := List.cons_eq_cons.1 ht
          exact absurd (hall c (by simp)) hc

/-- A text that can be a name in a declaration. -/
def IsName (w : Text) : Prop := w ≠ [] ∧ ∀ c ∈ w, isWord c = true

-- a quantifier over characters is not to be decided by trying all of them
instance (w : Text) : Decidable (IsName w) :=
  @instDecidableAnd _ _ inferInstance (List.decidableBAll (isWord · = true) w)

theorem word?_eq_some_iff {t w rest : Text} :
    word? t = some (w, rest) ↔ t = w ++ rest ∧ IsName w ∧ rest.head?.any isWord = false := by
  unfold word? spanWord
  rcases hs : t.span isWord with ⟨a, b⟩
  obtain ⟨ht, hall, hhead⟩ := span_eq_iff.1 hs
  cases a with
  | nil =>
    constructor
    · intro h
      cases h
    · rintro ⟨rfl, ⟨hne, hw⟩, -⟩
      cases w with
      | nil => exact absurd rfl hne
      | cons c w =>
        rw [List.nil_append] at ht
        subst ht
        simp [hw c (by simp)] at hhead
  | cons c a =>
    constructor
    · intro h
      obtain ⟨rfl, rfl⟩ := Prod.mk.inj (Option.some.inj h)
      exact ⟨ht, ⟨by simp, hall⟩, hhead⟩
    · rintro ⟨h, ⟨-, hw⟩, hr⟩
      have := span_eq_iff.2 ⟨h, hw, hr⟩
      rw [hs] at this
      obtain ⟨rfl, rfl⟩ := Prod.mk.inj this
      rfl

/-! ## 2. Optional spaces -/

/-- What may stand where a space can be left out. -/
def IsGap (s : Text) : Prop := s = [] ∨ s = [' ']

theorem IsGap.not_mem {s : Text} (h : IsGap s) {c : Char} (hc : c ≠ ' ') : c ∉ s := by
  rcases h with rfl | rfl
  · simp
  · simpa using hc

theorem closing?_eq_some_iff {c : Char} (hc : c ≠ ' ') {t rest : Text} :
    closing? c t = some rest ↔ ∃ s, IsGap s ∧ t = s ++ c :: rest := by
  have key : closing? c t = some rest ↔ skipSpace t = c :: rest := by
    unfold closing?
    split
    · rename_i d r h
      rw [h]
      by_cases hd : d = c
      · simp [hd]
      · simp [hd]
    · rename_i h
      rw [h]
      simp
  rw [key]
  constructor
  · intro h
    unfold skipSpace at h
    split at h
    · exact ⟨[' '], Or.inr rfl, by rw [h]; rfl⟩
    · exact ⟨[], Or.inl rfl, h⟩
  · rintro ⟨s, rfl | rfl, rfl⟩
    · rw [List.nil_append]
      unfold skipSpace
      split
      · rename_i r h
        exact absurd (List.cons_eq_cons.1 h).1 hc
      · rfl
    · rfl

theorem IsGap.head?_any_isWord {s : Text} (h : IsGap s) {c : Char} (hc : isWord c = false)
    (rest : Text) : (s ++ c :: rest).head?.any isWord = false := by
  rcases h with rfl | rfl
  · simpa using hc
  · simpa using (by decide : isWord ' ' = false)

/-! ## 3. Structure typedefs -/

/-- **The grammar of structure typedefs.** -/
theorem Typedef.read?_eq_some_iff {t rest : Text} {d : Typedef} :
    Typedef.read? t = some (d, rest) ↔
      ∃ s, IsGap s ∧ IsName d.tag ∧ IsName d.aliasName ∧
        t = Typedef.opening ++ (d.tag ++ ' ' :: (d.aliasName ++ (s ++ ';' :: rest))) := by
  constructor
  · intro h
    simp only [Typedef.read?, Option.bind_eq_bind, Option.bind_eq_some_iff, Prod.exists,
      Option.pure_def, Option.some.injEq, Prod.mk.injEq] at h
    obtain ⟨t₁, h₁, tag, t₂, h₂, t₃, h₃, aliasName, t₄, h₄, t₅, h₅, rfl, rfl⟩ := h
    rw [isPrefixOf?_eq_some_iff] at h₁
    obtain ⟨h₂, htag, -⟩ := word?_eq_some_iff.1 h₂
    rw [space?_eq_some_iff] at h₃
    obtain ⟨h₄, halias, -⟩ := word?_eq_some_iff.1 h₄
    obtain ⟨s, hs, h₅⟩ := (closing?_eq_some_iff (by decide)).1 h₅
    subst h₅ h₄ h₃ h₂ h₁
    exact ⟨s, hs, htag, halias, rfl⟩
  · rintro ⟨s, hs, htag, halias, rfl⟩
    simp only [Typedef.read?, Option.bind_eq_bind, Option.bind_eq_some_iff, Prod.exists,
      Option.pure_def, Option.some.injEq, Prod.mk.injEq]
    refine ⟨_, isPrefixOf?_eq_some_iff.2 rfl,
      d.tag, _, word?_eq_some_iff.2 ⟨rfl, htag, ?_⟩,
      _, space?_eq_some_iff.2 rfl,
      d.aliasName, _, word?_eq_some_iff.2 ⟨rfl, halias, ?_⟩,
      rest, (closing?_eq_some_iff (by decide)).2 ⟨s, hs, rfl⟩, rfl, rfl⟩
    · simpa using (by decide : isWord ' ' = false)
    · exact hs.head?_any_isWord (by decide) rest

/-! ## 4. Prototypes -/

namespace Prototype

theorem params?_eq_some_iff {t params rest : Text} :
    params? t = some (params, rest) ↔ t = params ++ ')' :: rest ∧ ')' ∉ params := by
  unfold params?
  rcases hs : t.span (fun c => decide (c ≠ ')')) with ⟨a, b⟩
  obtain ⟨ht, hall, hhead⟩ := span_eq_iff.1 hs
  cases b with
  | nil =>
    constructor
    · intro h
      cases h
    · rintro ⟨h, -⟩
      -- a run up to the end of the text holds no parenthesis
      have hmem : ')' ∈ a := by
        rw [List.append_nil] at ht
        rw [← ht, h]
        simp
      simpa using hall ')' hmem
  | cons d b =>
    have hd : d = ')' := by simpa using hhead
    subst hd
    constructor
    · intro h
      obtain ⟨rfl, rfl⟩ := Prod.mk.inj (Option.some.inj h)
      refine ⟨ht, ?_⟩
      intro hmem
      simpa using hall ')' hmem
    · rintro ⟨h, hparams⟩
      have : t.span (fun c => decide (c ≠ ')')) = (params, ')' :: rest) := by
        refine span_eq_iff.2 ⟨h, ?_, by simp⟩
        intro c hc
        have hne : c ≠ ')' := by
          rintro rfl
          exact hparams hc
        simpa using hne
      rw [hs] at this
      obtain ⟨rfl, h'⟩ := Prod.mk.inj this
      obtain ⟨-, rfl⟩ := List.cons_eq_cons.1 h'
      rfl

/-- **The grammar of a prototype behind its return type.** -/
theorem declared?_eq_some_iff {calling t rest : Text} {d : Declared} :
    declared? calling t = some (d, rest) ↔
      ∃ s₁ s₂, IsGap s₁ ∧ IsGap s₂ ∧ IsName d.name ∧ ')' ∉ d.paramText ∧
        t = ' ' :: (calling ++ ' ' :: (d.name ++ (s₁ ++ '(' ::
          (d.paramText ++ ')' :: (s₂ ++ ';' :: rest))))) := by
  constructor
  · intro h
    simp only [declared?, Option.bind_eq_bind, Option.bind_eq_some_iff, Prod.exists,
      Option.pure_def, Option.some.injEq, Prod.mk.injEq] at h
    obtain ⟨t₁, h₁, t₂, h₂, t₃, h₃, name, t₄, h₄, t₅, h₅, params, t₆, h₆, t₇, h₇, rfl, rfl⟩ := h
    rw [space?_eq_some_iff] at h₁ h₃
    rw [isPrefixOf?_eq_some_iff] at h₂
    obtain ⟨h₄, hname, -⟩ := word?_eq_some_iff.1 h₄
    obtain ⟨s₁, hs₁, h₅⟩ := (closing?_eq_some_iff (by decide)).1 h₅
    obtain ⟨h₆, hparams⟩ := params?_eq_some_iff.1 h₆
    obtain ⟨s₂, hs₂, h₇⟩ := (closing?_eq_some_iff (by decide)).1 h₇
    subst h₇ h₆ h₅ h₄ h₃ h₂ h₁
    exact ⟨s₁, s₂, hs₁, hs₂, hname, hparams, rfl⟩
  · rintro ⟨s₁, s₂, hs₁, hs₂, hname, hparams, rfl⟩
    simp only [declared?, Option.bind_eq_bind, Option.bind_eq_some_iff, Prod.exists,
      Option.pure_def, Option.some.injEq, Prod.mk.injEq]
    exact ⟨_, space?_eq_some_iff.2 rfl,
      _, isPrefixOf?_eq_some_iff.2 rfl,
      _, space?_eq_some_iff.2 rfl,
      d.name, _, word?_eq_some_iff.2 ⟨rfl, hname, hs₁.head?_any_isWord (by decide) _⟩,
      _, (closing?_eq_some_iff (by decide)).2 ⟨s₁, hs₁, rfl⟩,
      d.paramText, _, params?_eq_some_iff.2 ⟨rfl, hparams⟩,
      rest, (closing?_eq_some_iff (by decide)).2 ⟨s₂, hs₂, rfl⟩, rfl, rfl⟩

/-- Behind a character that is no end of the type, either the rest of the declaration can
    be read or the type goes on. -/
theorem body?_cons {calling : Text} {c : Char} (hc : endsType c = false) (t : Text) :
    body? calling (c :: t) =
      match declared? calling t with
      | some (d, tail) => some (⟨[c], d.name, d.paramText⟩, tail)
      | none => (body? calling t).map fun (p, tail) =>
          ({ p with returnText := c :: p.returnText }, tail) := by
  cases hd : declared? calling t with
  | none => simp [body?, hc, hd]
  | some q => simp [body?, hc, hd]

/-- The text `ret` is a return type in front of `u`: it is not empty, holds none of the
    characters that end the search, and no shorter one would do. -/
structure IsReturnType (calling ret u : Text) : Prop where
  ne_nil : ret ≠ []
  goes_on : ∀ c ∈ ret, endsType c = false
  shortest : ∀ a b, a ≠ [] → b ≠ [] → ret = a ++ b → declared? calling (b ++ u) = none

theorem isReturnType_singleton {calling : Text} {c : Char} (hc : endsType c = false)
    (u : Text) : IsReturnType calling [c] u := by
  refine ⟨by simp, by simpa using hc, ?_⟩
  intro a b ha hb hab
  have hlen := congrArg List.length hab
  have ha' := List.length_pos_iff.2 ha
  have hb' := List.length_pos_iff.2 hb
  simp only [List.length_cons, List.length_nil, List.length_append] at hlen
  omega

/-- A longer type is one whose second character begins a type and behind whose first
    character the rest of the declaration cannot be read. -/
theorem isReturnType_cons_cons {calling : Text} {c e : Char} {ret u : Text} :
    IsReturnType calling (c :: e :: ret) u ↔
      endsType c = false ∧ declared? calling (e :: ret ++ u) = none ∧
        IsReturnType calling (e :: ret) u := by
  constructor
  · rintro ⟨-, hgo, hmin⟩
    refine ⟨hgo c (by simp), hmin [c] (e :: ret) (by simp) (by simp) rfl, by simp, ?_, ?_⟩
    · intro d hd
      exact hgo d (List.mem_cons_of_mem _ hd)
    · intro a b ha hb hab
      exact hmin (c :: a) b (by simp) hb (congrArg (c :: ·) hab)
  · rintro ⟨hc, hd, -, hgo, hmin⟩
    refine ⟨by simp, ?_, ?_⟩
    · intro d hd
      rcases List.mem_cons.1 hd with rfl | hd
      · exact hc
      · exact hgo d hd
    · intro a b ha hb hab
      cases a with
      | nil => exact absurd rfl ha
      | cons d a =>
        rw [List.cons_append, List.cons_eq_cons] at hab
        obtain ⟨rfl, hrest⟩ := hab
        cases a with
        | nil =>
          rw [List.nil_append] at hrest
          rw [← hrest]
          exact hd
        | cons d a => exact hmin (d :: a) b (by simp) hb hrest

/-- **The search for the end of the return type.** -/
theorem body?_eq_some_iff {calling t rest ret name params : Text} :
    body? calling t = some (⟨ret, name, params⟩, rest) ↔
      ∃ u, t = ret ++ u ∧ IsReturnType calling ret u ∧
        declared? calling u = some (⟨name, params⟩, rest) := by
  induction t generalizing ret with
  | nil =>
    constructor
    · intro h
      cases h
    · rintro ⟨u, h, hret, -⟩
      exact absurd (List.append_eq_nil_iff.1 h.symm).1 hret.ne_nil
  | cons c t ih =>
    by_cases hc : endsType c = true
    · constructor
      · intro h
        simp [body?, hc] at h
      · rintro ⟨u, h, hret, -⟩
        cases ret with
        | nil => exact absurd rfl hret.ne_nil
        | cons e ret =>
          rw [List.cons_append, List.cons_eq_cons] at h
          obtain ⟨rfl, -⟩ := h
          have := hret.goes_on c (by simp)
          rw [hc] at this
          cases this
    · have hc : endsType c = false := by simpa using hc
      rw [body?_cons hc]
      cases hd : declared? calling t with
      | some q =>
        obtain ⟨d, tail⟩ := q
        constructor
        · intro h
          cases h
          exact ⟨t, rfl, isReturnType_singleton hc t, hd⟩
        · rintro ⟨u, h, hret, hdecl⟩
          cases ret with
          | nil => exact absurd rfl hret.ne_nil
          | cons e ret =>
            rw [List.cons_append, List.cons_eq_cons] at h
            obtain ⟨rfl, rfl⟩ := h
            cases ret with
            | nil =>
              rw [List.nil_append, hdecl] at hd
              cases hd
              rfl
            | cons e ret =>
              rw [(isReturnType_cons_cons.1 hret).2.1] at hd
              cases hd
      | none =>
        constructor
        · intro h
          obtain ⟨⟨q, tail⟩, hq, he⟩ := Option.map_eq_some_iff.1 h
          obtain ⟨ret', name', params'⟩ := q
          cases he
          obtain ⟨u, rfl, hret, hdecl⟩ := ih.1 hq
          cases ret' with
          | nil => exact absurd rfl hret.ne_nil
          | cons e ret =>
            exact ⟨u, rfl, isReturnType_cons_cons.2 ⟨hc, hd, hret⟩, hdecl⟩
        · rintro ⟨u, h, hret, hdecl⟩
          cases ret with
          | nil => exact absurd rfl hret.ne_nil
          | cons e ret =>
            rw [List.cons_append, List.cons_eq_cons] at h
            obtain ⟨rfl, rfl⟩ := h
            cases ret with
            | nil =>
              rw [List.nil_append, hdecl] at hd
              cases hd
            | cons e ret =>
              have hq := ih.2 ⟨u, rfl, (isReturnType_cons_cons.1 hret).2.2, hdecl⟩
              exact Option.map_eq_some_iff.2 ⟨_, hq, rfl⟩

/-- **The grammar of prototypes.** -/
theorem read?_eq_some_iff {m : Markers} {before : Option Char} {t rest : Text}
    {p : Prototype} :
    read? m before t = some (p, rest) ↔
      isBoundary before t.head? = true ∧
        ∃ u, t = m.exporting ++ ' ' :: u ∧ body? m.calling u = some (p, rest) := by
  unfold read?
  by_cases hb : isBoundary before t.head? = true
  · simp only [hb, if_true, true_and, Option.bind_eq_bind, Option.bind_eq_some_iff,
      isPrefixOf?_eq_some_iff, space?_eq_some_iff]
    constructor
    · rintro ⟨_, rfl, u, rfl, h⟩
      exact ⟨u, rfl, h⟩
    · rintro ⟨u, rfl, h⟩
      exact ⟨_, rfl, u, rfl, h⟩
  · simp [hb]

end Prototype

end HeaderBindings.Header
