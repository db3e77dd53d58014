import HeaderBindings.Proofs.Header.Grammar
import HeaderBindings.Proofs.Text.Identifiers

/-!
# Reading a text segment by segment

A text is *sealed* when its last character is its only semicolon and a closing
parenthesis follows every opening one.  No declaration that begins in a sealed text is
read beyond its end, whatever follows: the words, the gaps and the return type of a
declaration hold no semicolon, and its parameters, which may hold one, end at the first
closing parenthesis.

So every reader reads a sealed text `d` in front of a text `r` as it reads `d` alone, and
leaves `r` over (`Typedef.read?_append_iff`, `Prototype.read?_append_iff`).  The searches
for typedefs and prototypes, and the list of names, are therefore *segmentwise*
(`IsSegmentwise`): they find in a sequence of sealed texts what they find in each of them,
and it does not matter either whether the blanks are collapsed before the texts are put
together or afterwards (`IsSegmentwise.collapse_flatten`).
-/

namespace HeaderBindings.Header

/-! ## 1. Sealed texts -/

/-- The last character is the only semicolon, and behind every opening parenthesis
    stands a closing one. -/
inductive IsSealed : Text → Prop
  | semicolon : IsSealed [';']
  | cons {c : Char} {t : Text} (hc : c ≠ ';') (hclosed : c = '(' → ')' ∈ t)
      (ht : IsSealed t) : IsSealed (c :: t)

namespace IsSealed

theorem ne_nil {d : Text} (h : IsSealed d) : d ≠ [] := by
  cases h with
  | semicolon => simp
  | cons => simp

theorem tail {c : Char} {t : Text} (h : IsSealed (c :: t)) (hc : c ≠ ';') : IsSealed t := by
  cases h with
  | semicolon => exact absurd rfl hc
  | cons _ _ ht => exact ht

theorem closing_mem {t : Text} (h : IsSealed ('(' :: t)) : ')' ∈ t := by
  cases h with
  | cons _ hclosed _ => exact hclosed rfl

theorem exists_eq_append {d : Text} (h : IsSealed d) : ∃ b, d = b ++ [';'] ∧ ';' ∉ b := by
  induction h with
  | semicolon => exact ⟨[], rfl, by simp⟩
  | @cons c t hc _ _ ih =>
    obtain ⟨b, rfl, hb⟩ := ih
    refine ⟨c :: b, rfl, ?_⟩
    intro hmem
    rcases List.mem_cons.1 hmem with h | h
    · exact hc h.symm
    · exact hb h

/-- A text without semicolons in front of a sealed one, which closes its parentheses. -/
theorem append {a d : Text} (ha : ';' ∉ a) (hopen : '(' ∈ a → ')' ∈ d) (h : IsSealed d) :
    IsSealed (a ++ d) := by
  induction a with
  | nil => exact h
  | cons c a ih =>
    rw [List.mem_cons, not_or] at ha
    refine .cons (fun e => ha.1 e.symm) ?_ (ih ha.2 fun h => hopen (List.mem_cons_of_mem _ h))
    rintro rfl
    exact List.mem_append_right _ (hopen (by simp))

/-- **Peeling.**  A text without semicolons, read from the beginning of a sealed text and
    whatever follows it, stays within the sealed text. -/
theorem peel {d r a b : Text} (h : IsSealed d) (heq : d ++ r = a ++ b) (ha : ';' ∉ a) :
    ∃ d', d = a ++ d' ∧ b = d' ++ r ∧ IsSealed d' := by
  induction a generalizing d with
  | nil => exact ⟨d, rfl, heq.symm, h⟩
  | cons c a ih =>
    rw [List.mem_cons, not_or] at ha
    cases d with
    | nil => exact absurd rfl h.ne_nil
    | cons e d =>
      rw [List.cons_append, List.cons_append, List.cons_eq_cons] at heq
      obtain ⟨rfl, heq⟩ := heq
      obtain ⟨d', rfl, hb, hd'⟩ := ih (h.tail (fun h => ha.1 h.symm)) heq ha.2
      exact ⟨d', rfl, hb, hd'⟩

/-- No semicolon stands in front of another one. -/
theorem not_mem_of_append {a b : Text} (h : IsSealed (a ++ ';' :: b)) : ';' ∉ a := by
  obtain ⟨d, hd, hsemi⟩ := h.exists_eq_append
  rcases List.eq_nil_or_concat b with rfl | ⟨b, x, rfl⟩
  · rw [List.append_cancel_right hd]
    exact hsemi
  · have hsplit : (a ++ ';' :: b) ++ [x] = d ++ [';'] := by simpa using hd
    have hfront : a ++ ';' :: b = d := (List.append_inj' hsplit rfl).1
    intro hmem
    apply hsemi
    rw [← hfront]
    exact List.mem_append_left _ hmem

theorem peel_semicolon {d r a b : Text} (h : IsSealed d) (heq : d ++ r = a ++ ';' :: b)
    (ha : ';' ∉ a) : d = a ++ [';'] ∧ b = r := by
  obtain ⟨d', rfl, hb, hd'⟩ := h.peel heq ha
  cases hd' with
  | semicolon =>
    rw [List.cons_append, List.nil_append, List.cons_eq_cons] at hb
    exact ⟨rfl, hb.2⟩
  | cons hc _ _ =>
    rw [List.cons_append, List.cons_eq_cons] at hb
    exact absurd hb.1.symm hc

/-- Behind an opening parenthesis, the text up to the first closing one stays within the
    sealed text. -/
theorem peel_parameters {d r a b : Text} (h : IsSealed ('(' :: d))
    (heq : d ++ r = a ++ ')' :: b) (ha : ')' ∉ a) :
    ∃ d', d = a ++ ')' :: d' ∧ b = d' ++ r ∧ IsSealed d' := by
  obtain ⟨x, y, hd, hx⟩ := List.eq_append_cons_of_mem h.closing_mem
  have hxa : x = a ∧ y ++ r = b := by
    rw [hd, List.append_assoc, List.cons_append] at heq
    exact append_cons_inj hx ha heq
  obtain ⟨rfl, rfl⟩ := hxa
  refine ⟨y, hd, rfl, ?_⟩
  have htail : IsSealed (x ++ ')' :: y) := hd ▸ h.tail (by decide)
  have hsemi : ';' ∉ x := by
    intro hmem
    obtain ⟨x₁, x₂, rfl, hx₁⟩ := List.eq_append_cons_of_mem hmem
    have hend := htail.peel_semicolon (r := []) (a := x₁) (b := x₂ ++ ')' :: y) (by simp) hx₁
    simp at hend
  obtain ⟨d', hd', hb, hsealed⟩ := htail.peel (r := []) (List.append_nil _) hsemi
  rw [List.append_nil] at hb
  subst hb
  exact hsealed.tail (by decide)

theorem endsBlank {d : Text} (h : IsSealed d) : Text.endsBlank d = false := by
  obtain ⟨b, rfl, -⟩ := h.exists_eq_append
  simpa [Text.endsBlank] using (by decide : isBlank ';' = false)

theorem squeeze {d : Text} (h : IsSealed d) : IsSealed (Text.squeeze d) := by
  induction h with
  | semicolon => exact .semicolon
  | @cons c t hc hclosed ht ih =>
    by_cases hb : isBlank c = true
    · rw [Text.squeeze, hb, if_pos rfl]
      split
      · exact ih
      · exact .cons (by decide) (fun h => absurd h (by decide)) ih
    · rw [Text.squeeze_cons_ink (by simpa using hb)]
      refine .cons hc ?_ ih
      intro h
      exact Text.mem_squeeze_of_mem (hclosed h) (by decide)

theorem collapse {d : Text} (h : IsSealed d) : IsSealed (Text.collapse d) := by
  have hblank : ';' ∉ d.takeWhile isBlank := by
    intro hmem
    exact absurd (List.mem_takeWhile_imp hmem) (by decide)
  obtain ⟨d', -, hd', hsealed⟩ := h.peel (r := []) (b := d.dropWhile isBlank)
    (by rw [List.append_nil, List.takeWhile_append_dropWhile]) hblank
  rw [List.append_nil] at hd'
  rw [Text.collapse_eq_squeeze h.endsBlank, hd']
  exact hsealed.squeeze

end IsSealed

/-! ## 2. Local reading -/

theorem IsName.not_mem {w : Text} (h : IsName w) {c : Char} (hc : isWord c = false) :
    c ∉ w := by
  intro hmem
  rw [h.2 c hmem] at hc
  cases hc

theorem Typedef.read?_append_iff {d r tail : Text} {x : Typedef} (hd : IsSealed d) :
    Typedef.read? (d ++ r) = some (x, tail) ↔ Typedef.read? d = some (x, []) ∧ tail = r := by
  rw [Typedef.read?_eq_some_iff, Typedef.read?_eq_some_iff]
  constructor
  · rintro ⟨s, hs, htag, halias, heq⟩
    have hgap : ∀ t, Typedef.opening ++ (x.tag ++ ' ' :: (x.aliasName ++ (s ++ ';' :: t))) =
        (Typedef.opening ++ (x.tag ++ ' ' :: (x.aliasName ++ s))) ++ ';' :: t := by
      intro t
      simp
    rw [hgap] at heq
    have hsemi : ';' ∉ Typedef.opening ++ (x.tag ++ ' ' :: (x.aliasName ++ s)) := by
      simp only [List.mem_append, List.mem_cons, not_or]
      exact ⟨by decide, htag.not_mem (by decide), by decide, halias.not_mem (by decide),
        hs.not_mem (by decide)⟩
    obtain ⟨hd', rfl⟩ := hd.peel_semicolon heq hsemi
    exact ⟨⟨s, hs, htag, halias, by rw [hgap, hd']⟩, rfl⟩
  · rintro ⟨⟨s, hs, htag, halias, rfl⟩, rfl⟩
    exact ⟨s, hs, htag, halias, by simp⟩

namespace Prototype

theorem declared?_append_iff {calling d r tail : Text} {x : Declared} (hd : IsSealed d)
    (hcalling : ';' ∉ calling) :
    declared? calling (d ++ r) = some (x, tail) ↔
      declared? calling d = some (x, []) ∧ tail = r := by
  rw [declared?_eq_some_iff, declared?_eq_some_iff]
  constructor
  · rintro ⟨s₁, s₂, hs₁, hs₂, hname, hparams, heq⟩
    have hfront : ∀ t, ' ' :: (calling ++ ' ' :: (x.name ++ (s₁ ++ '(' :: t))) =
        (' ' :: (calling ++ ' ' :: (x.name ++ s₁))) ++ '(' :: t := by
      intro t
      simp
    rw [hfront] at heq
    have hsemi : ';' ∉ ' ' :: (calling ++ ' ' :: (x.name ++ s₁)) := by
      simp only [List.mem_cons, List.mem_append, not_or]
      exact ⟨by decide, hcalling, by decide, hname.not_mem (by decide),
        hs₁.not_mem (by decide)⟩
    obtain ⟨d₁, rfl, hd₁, hsealed⟩ := hd.peel heq hsemi
    cases d₁ with
    | nil => exact absurd rfl hsealed.ne_nil
    | cons c d₁ =>
      rw [List.cons_append, List.cons_eq_cons] at hd₁
      obtain ⟨rfl, hd₁⟩ := hd₁
      obtain ⟨d₂, rfl, hd₂, hsealed₂⟩ := hsealed.peel_parameters hd₁.symm hparams
      obtain ⟨rfl, rfl⟩ := hsealed₂.peel_semicolon hd₂.symm (hs₂.not_mem (by decide))
      exact ⟨⟨s₁, s₂, hs₁, hs₂, hname, hparams, (hfront _).symm⟩, rfl⟩
  · rintro ⟨⟨s₁, s₂, hs₁, hs₂, hname, hparams, rfl⟩, rfl⟩
    exact ⟨s₁, s₂, hs₁, hs₂, hname, hparams, by simp⟩

/-- What is no declaration in front of another text is none alone, and conversely. -/
theorem declared?_append_eq_none_iff {calling d r : Text} (hd : IsSealed d)
    (hcalling : ';' ∉ calling) :
    declared? calling (d ++ r) = none ↔ declared? calling d = none := by
  rw [Option.eq_none_iff_forall_ne_some, Option.eq_none_iff_forall_ne_some]
  constructor
  · rintro h ⟨x, tail⟩ hx
    have := (declared?_append_iff (r := []) hd hcalling).1 (by rwa [List.append_nil])
    exact h (x, r) ((declared?_append_iff hd hcalling).2 ⟨this.1, rfl⟩)
  · rintro h ⟨x, tail⟩ hx
    exact h (x, []) ((declared?_append_iff hd hcalling).1 hx).1

theorem isReturnType_append_iff {calling ret u r : Text} (h : IsSealed (ret ++ u))
    (hcalling : ';' ∉ calling) :
    IsReturnType calling ret (u ++ r) ↔ IsReturnType calling ret u := by
  have hlocal : (∀ c ∈ ret, endsType c = false) → ∀ a b, ret = a ++ b →
      (declared? calling (b ++ (u ++ r)) = none ↔ declared? calling (b ++ u) = none) := by
    rintro hgo a b rfl
    have ha : ';' ∉ a := by
      intro hmem
      exact absurd (hgo ';' (List.mem_append_left _ hmem)) (by decide)
    obtain ⟨d', -, hb, hsealed⟩ :=
      h.peel (r := []) (a := a) (b := b ++ u) (by simp) ha
    rw [List.append_nil] at hb
    rw [← List.append_assoc, declared?_append_eq_none_iff (hb ▸ hsealed) hcalling]
  constructor
  · rintro ⟨hne, hgo, hmin⟩
    refine ⟨hne, hgo, ?_⟩
    intro a b ha hb hab
    exact (hlocal hgo a b hab).1 (hmin a b ha hb hab)
  · rintro ⟨hne, hgo, hmin⟩
    refine ⟨hne, hgo, ?_⟩
    intro a b ha hb hab
    exact (hlocal hgo a b hab).2 (hmin a b ha hb hab)

theorem body?_append_iff {calling d r tail : Text} {p : Prototype} (hd : IsSealed d)
    (hcalling : ';' ∉ calling) :
    body? calling (d ++ r) = some (p, tail) ↔ body? calling d = some (p, []) ∧ tail = r := by
  obtain ⟨ret, name, params⟩ := p
  rw [body?_eq_some_iff, body?_eq_some_iff]
  constructor
  · rintro ⟨u, heq, hret, hdecl⟩
    have hsemi : ';' ∉ ret := by
      intro hmem
      exact absurd (hret.goes_on ';' hmem) (by decide)
    obtain ⟨d', rfl, rfl, hsealed⟩ := hd.peel heq hsemi
    obtain ⟨hdecl', rfl⟩ := (declared?_append_iff hsealed hcalling).1 hdecl
    exact ⟨⟨d', rfl, (isReturnType_append_iff hd hcalling).1 hret, hdecl'⟩, rfl⟩
  · rintro ⟨⟨u, rfl, hret, hdecl⟩, rfl⟩
    have hsemi : ';' ∉ ret := by
      intro hmem
      exact absurd (hret.goes_on ';' hmem) (by decide)
    obtain ⟨d', -, hu, hsealed⟩ := hd.peel (r := []) (List.append_nil _) hsemi
    rw [List.append_nil] at hu
    subst hu
    exact ⟨u ++ tail, List.append_assoc _ _ _, (isReturnType_append_iff hd hcalling).2 hret,
      (declared?_append_iff hsealed hcalling).2 ⟨hdecl, rfl⟩⟩

theorem read?_append_iff {m : Markers} {before : Option Char} {d r tail : Text}
    {p : Prototype} (hd : IsSealed d) (he : ';' ∉ m.exporting) (hc : ';' ∉ m.calling) :
    read? m before (d ++ r) = some (p, tail) ↔
      read? m before d = some (p, []) ∧ tail = r := by
  have hhead : (d ++ r).head? = d.head? := by
    cases d with
    | nil => exact absurd rfl hd.ne_nil
    | cons c d => rfl
  have hsemi : ';' ∉ m.exporting ++ [' '] := by
    rw [List.mem_append, not_or]
    exact ⟨he, by decide⟩
  have hmarker : ∀ u, m.exporting ++ ' ' :: u = (m.exporting ++ [' ']) ++ u := by
    intro u
    simp
  rw [read?_eq_some_iff, read?_eq_some_iff, hhead]
  constructor
  · rintro ⟨hb, u, heq, hbody⟩
    rw [hmarker] at heq
    obtain ⟨d', rfl, rfl, hsealed⟩ := hd.peel heq hsemi
    obtain ⟨hbody', rfl⟩ := (body?_append_iff hsealed hc).1 hbody
    exact ⟨⟨hb, d', (hmarker d').symm, hbody'⟩, rfl⟩
  · rintro ⟨⟨hb, u, heq, hbody⟩, rfl⟩
    obtain ⟨d', hd', hu, hsealed⟩ :=
      hd.peel (r := []) (a := m.exporting ++ [' ']) (b := u) (by rw [heq]; simp) hsemi
    rw [List.append_nil] at hu
    subst hu
    exact ⟨hb, u ++ tail, by rw [hd', hmarker (u ++ tail), List.append_assoc],
      (body?_append_iff hsealed hc).2 ⟨hbody, rfl⟩⟩

/-- Of the character before a prototype only its class matters. -/
theorem read?_congr {m : Markers} {before before' : Option Char}
    (h : before.any isWord = before'.any isWord) (t : Text) :
    read? m before t = read? m before' t := by
  unfold read? isBoundary
  rw [h]

end Prototype

/-! ## 3. Searches through sealed texts -/

/-- What a reader that is local makes of a sealed text in front of another text. -/
theorem read_append_cases {α : Type} {f : Text → Option (α × Text)} {d r : Text}
    (hlocal : ∀ x tail, f (d ++ r) = some (x, tail) ↔ f d = some (x, []) ∧ tail = r)
    (hself : ∀ x tail, f d = some (x, tail) → tail = []) :
    (f (d ++ r) = none ∧ f d = none) ∨ ∃ x, f (d ++ r) = some (x, r) ∧ f d = some (x, []) := by
  cases hd : f d with
  | none =>
    left
    refine ⟨?_, rfl⟩
    rw [Option.eq_none_iff_forall_ne_some]
    rintro ⟨x, tail⟩ hx
    have := ((hlocal x tail).1 hx).1
    rw [hd] at this
    cases this
  | some q =>
    obtain ⟨x, tail⟩ := q
    obtain rfl := hself x tail hd
    right
    exact ⟨x, (hlocal x r).2 ⟨hd, rfl⟩, rfl⟩

theorem Typedef.read?_append_cases {d : Text} (hd : IsSealed d) (r : Text) :
    (Typedef.read? (d ++ r) = none ∧ Typedef.read? d = none) ∨
      ∃ x, Typedef.read? (d ++ r) = some (x, r) ∧ Typedef.read? d = some (x, []) := by
  apply read_append_cases
  · intro x tail
    exact Typedef.read?_append_iff hd
  · intro x tail h
    exact ((Typedef.read?_append_iff (r := []) hd).1 (by rwa [List.append_nil])).2

theorem Prototype.read?_append_cases {m : Markers} (he : ';' ∉ m.exporting)
    (hc : ';' ∉ m.calling) (before : Option Char) {d : Text} (hd : IsSealed d) (r : Text) :
    (read? m before (d ++ r) = none ∧ read? m before d = none) ∨
      ∃ p, read? m before (d ++ r) = some (p, r) ∧ read? m before d = some (p, []) := by
  apply read_append_cases
  · intro p tail
    exact read?_append_iff hd he hc
  · intro p tail h
    exact ((read?_append_iff (r := []) hd he hc).1 (by rwa [List.append_nil])).2

/-- The search for typedefs goes through a sealed text and starts afresh behind it; the
    characters to be skipped lie within the sealed text. -/
theorem typedefsFrom_append {d : Text} (hd : d = [] ∨ IsSealed d) (r : Text) (skip : Nat)
    (hskip : skip ≤ d.length) :
    typedefsFrom skip (d ++ r) = typedefsFrom skip d ++ typedefsFrom 0 r := by
  induction d generalizing skip with
  | nil =>
    obtain rfl : skip = 0 := by simpa using hskip
    rfl
  | cons c d ih =>
    have hd : IsSealed (c :: d) := by
      rcases hd with h | h
      · cases h
      · exact h
    have htail : d = [] ∨ IsSealed d := by
      cases hd with
      | semicolon => exact Or.inl rfl
      | cons _ _ ht => exact Or.inr ht
    cases skip with
    | succ skip => exact ih htail skip (by simpa using hskip)
    | zero =>
      rcases Typedef.read?_append_cases hd r with ⟨h₁, h₂⟩ | ⟨x, h₁, h₂⟩
      · rw [List.cons_append] at h₁ ⊢
        rw [typedefsFrom, typedefsFrom, h₁, h₂]
        exact ih htail 0 (Nat.zero_le _)
      · rw [List.cons_append] at h₁ ⊢
        rw [typedefsFrom, typedefsFrom, h₁, h₂, List.cons_append]
        have hlen : (d ++ r).length - r.length = d.length - ([] : Text).length := by simp
        simp only [hlen]
        rw [ih htail _ (by simp)]

theorem typedefs_append {d : Text} (hd : IsSealed d) (r : Text) :
    typedefs (d ++ r) = typedefs d ++ typedefs r :=
  typedefsFrom_append (Or.inr hd) r 0 (Nat.zero_le _)

theorem typedefs_space (t : Text) : typedefs (' ' :: t) = typedefs t := by
  have hread : Typedef.read? (' ' :: t) = none := by
    rw [Option.eq_none_iff_forall_ne_some]
    rintro ⟨x, tail⟩ h
    obtain ⟨s, -, -, -, heq⟩ := Typedef.read?_eq_some_iff.1 h
    exact absurd (List.cons_eq_cons.1 heq).1 (by decide)
  rw [typedefs, typedefsFrom, hread]
  rfl

/-- The texts of the prototypes in the rest of a text, without their places. -/
def prototypeTexts (m : Markers) (place skip : Nat) (before : Option Char) (t : Text) :
    List Prototype :=
  (matchesFrom m place skip before t).map (·.prototype)

/-- The texts of the prototypes depend neither on the place where the text begins nor, but
    for its class, on the character before it. -/
theorem prototypeTexts_congr {m : Markers} (place place' skip : Nat)
    {before before' : Option Char} (h : before.any isWord = before'.any isWord) (t : Text) :
    prototypeTexts m place skip before t = prototypeTexts m place' skip before' t := by
  induction t generalizing place place' skip before before' with
  | nil => rfl
  | cons c t ih =>
    unfold prototypeTexts at ih ⊢
    cases skip with
    | succ skip => exact ih _ _ skip rfl
    | zero =>
      rw [matchesFrom, matchesFrom, Prototype.read?_congr h]
      cases Prototype.read? m before' (c :: t) with
      | none => exact ih _ _ 0 rfl
      | some q =>
        rw [List.map_cons, List.map_cons]
        exact congrArg _ (ih _ _ _ rfl)

section Prototypes

variable {m : Markers} (he : ';' ∉ m.exporting) (hc : ';' ∉ m.calling)

include he hc

/-- The search for prototypes goes through a sealed text and starts afresh behind it. -/
theorem prototypeTexts_append {d : Text} (hd : IsSealed d) (r : Text) (place skip : Nat)
    (before : Option Char) (hskip : skip ≤ d.length) :
    prototypeTexts m place skip before (d ++ r) =
      prototypeTexts m place skip before d ++ prototypeTexts m 0 0 none r := by
  induction d generalizing place skip before with
  | nil => exact absurd rfl hd.ne_nil
  | cons c d ih =>
    have htail : ∀ k ≤ d.length,
        prototypeTexts m (place + 1) k (some c) (d ++ r) =
          prototypeTexts m (place + 1) k (some c) d ++ prototypeTexts m 0 0 none r := by
      intro k hk
      cases hd with
      | semicolon =>
        obtain rfl : k = 0 := by simpa using hk
        exact prototypeTexts_congr _ _ 0 (by decide) r
      | cons _ _ ht => exact ih ht _ _ _ hk
    unfold prototypeTexts at htail ⊢
    rw [List.cons_append]
    cases skip with
    | succ skip => exact htail skip (by simpa using hskip)
    | zero =>
      rcases Prototype.read?_append_cases he hc before hd r with ⟨h₁, h₂⟩ | ⟨p, h₁, h₂⟩
      · rw [List.cons_append] at h₁
        rw [matchesFrom, matchesFrom, h₁, h₂]
        exact htail 0 (Nat.zero_le _)
      · rw [List.cons_append] at h₁
        have hlen : (d ++ r).length - r.length = d.length - ([] : Text).length := by simp
        rw [matchesFrom, matchesFrom, h₁, h₂]
        simp only [hlen]
        rw [List.map_cons, List.map_cons, htail _ (by simp), List.cons_append]

end Prototypes

theorem prototypeTexts_space {m : Markers} (he : m.exporting ≠ []) (hspace : ' ' ∉ m.exporting)
    (t : Text) : prototypeTexts m 0 0 none (' ' :: t) = prototypeTexts m 0 0 none t := by
  have hread : Prototype.read? m none (' ' :: t) = none := by
    rw [Option.eq_none_iff_forall_ne_some]
    rintro ⟨p, tail⟩ h
    obtain ⟨-, u, heq, -⟩ := Prototype.read?_eq_some_iff.1 h
    cases hx : m.exporting with
    | nil => exact he hx
    | cons c e =>
      rw [hx, List.cons_append, List.cons_eq_cons] at heq
      apply hspace
      rw [hx, ← heq.1]
      simp
  have hstep : prototypeTexts m 0 0 none (' ' :: t) = prototypeTexts m 1 0 (some ' ') t := by
    unfold prototypeTexts
    rw [matchesFrom, hread]
  rw [hstep]
  exact prototypeTexts_congr _ _ 0 (by decide) t

/-! ## 4. Functions that read segment by segment -/

/-- What the function lists of a text it lists segment by segment. -/
structure IsSegmentwise {β : Type} (F : Text → List β) : Prop where
  nil : F [] = []
  space : ∀ t, F (' ' :: t) = F t
  append : ∀ {d : Text}, IsSealed d → ∀ r, F (d ++ r) = F d ++ F r

theorem isSegmentwise_typedefs : IsSegmentwise typedefs where
  nil := rfl
  space := typedefs_space
  append := typedefs_append

theorem isSegmentwise_prototypeTexts {m : Markers} (he : IsIdentText m.exporting)
    (hc : IsIdentText m.calling) : IsSegmentwise (prototypeTexts m 0 0 none) where
  nil := rfl
  space := prototypeTexts_space he.1 (he.not_mem (by decide))
  append := by
    intro d hd r
    exact prototypeTexts_append (he.not_mem (by decide)) (hc.not_mem (by decide)) hd r 0 0
      none (Nat.zero_le _)

theorem isSegmentwise_names : IsSegmentwise Text.names where
  nil := rfl
  space := Text.names_cons (by decide)
  append := by
    intro d hd r
    obtain ⟨b, rfl, -⟩ := hd.exists_eq_append
    have hsemi : isIdent ';' = false := by decide
    have hempty : Text.names [] = [] := rfl
    rw [List.append_assoc, List.singleton_append, Text.names_append hsemi,
      Text.names_append hsemi, hempty, List.append_nil]

namespace IsSegmentwise

variable {β : Type} {F : Text → List β}

theorem flatten (h : IsSegmentwise F) {ds : List Text} (hds : ∀ d ∈ ds, IsSealed d) :
    F ds.flatten = ds.flatMap F := by
  induction ds with
  | nil => exact h.nil
  | cons d ds ih =>
    rw [List.flatten_cons, List.flatMap_cons, h.append (hds d (by simp)),
      ih (fun e he => hds e (List.mem_cons_of_mem _ he))]

theorem collapse_eq_squeeze (h : IsSegmentwise F) {t : Text}
    (ht : Text.endsBlank t = false) : F (Text.collapse t) = F (Text.squeeze t) := by
  rw [Text.collapse_eq_squeeze ht]
  by_cases hstart : Text.startsBlank t = true
  · rw [Text.squeeze_of_startsBlank hstart, h.space]
  · cases t with
    | nil => rfl
    | cons c t =>
      have hc : ¬ isBlank c = true := by simpa [Text.startsBlank] using hstart
      rw [List.dropWhile_cons_of_neg hc]

/-- **Collapsing segment by segment.**  What is listed of a sequence of sealed texts on
    one line is what is listed of each of them on a line of its own. -/
theorem collapse_flatten (h : IsSegmentwise F) {ds : List Text}
    (hds : ∀ d ∈ ds, IsSealed d) :
    F (Text.collapse ds.flatten) = ds.flatMap fun d => F (Text.collapse d) := by
  have hends : ∀ d ∈ ds, Text.endsBlank d = false := by
    intro d hd
    exact (hds d hd).endsBlank
  rw [h.collapse_eq_squeeze (Text.endsBlank_flatten hends), Text.squeeze_flatten hends,
    h.flatten (by
      intro d hd
      obtain ⟨e, he, rfl⟩ := List.mem_map.1 hd
      exact (hds e he).squeeze),
    List.flatMap_map]
  apply List.flatMap_congr
  intro d hd
  exact (h.collapse_eq_squeeze (hends d hd)).symm

end IsSegmentwise

end HeaderBindings.Header
