import HeaderBindings.CType
import HeaderBindings.Proofs.Text.Identifiers
import Mathlib.Data.List.Chain

/-!
# Texts laid out with gaps

A text is *laid out* from pairs of a gap, which is blank, and what stands behind it.  Two
questions about such a text are answered pair by pair.

* Squeezing makes every gap a space, and squeezes what stands behind the gaps, provided
  that it is *solid*: not empty, and without blanks at its ends (`squeeze_laid`).
* Its words, its names, and the words of a type in it are those of what stands behind the
  gaps, provided that neighbours without a gap do not touch (`words_laid`).
-/

namespace HeaderBindings.Text

/-! ## 1. Words at a boundary -/

/-- Words are kept apart where either side of a boundary is blank. -/
theorem words_append_of_boundary {x y : Text}
    (h : endsBlank x = true ∨ startsBlank y = true) : words (x ++ y) = words x ++ words y := by
  rcases h with h | h
  · obtain ⟨c, hc, hblank⟩ : ∃ c, x.getLast? = some c ∧ isBlank c = true := by
      rw [endsBlank, Option.any_eq_true] at h
      exact h
    obtain ⟨x, rfl⟩ := List.getLast?_eq_some_iff.1 hc
    rw [List.append_assoc, List.singleton_append, words_append_blank hblank,
      words_append_blank hblank, words, List.append_nil]
  · cases y with
    | nil => cases h
    | cons c y =>
      have hblank : isBlank c = true := by simpa [startsBlank] using h
      rw [words_append_blank hblank, words_cons_blank hblank]

/-! ## 2. Laid out texts -/

/-- Pairs of a gap and what stands behind it, written out. -/
def laid (ps : List (Text × Text)) : Text := ps.flatMap fun p => p.1 ++ p.2

theorem laid_nil : laid [] = [] := rfl

theorem laid_cons (p : Text × Text) (ps : List (Text × Text)) :
    laid (p :: ps) = p.1 ++ (p.2 ++ laid ps) := by
  rw [laid, List.flatMap_cons, List.append_assoc]
  rfl

theorem map_laid (f : Char → Char) (ps : List (Text × Text)) :
    (laid ps).map f = laid (ps.map fun p => (p.1.map f, p.2.map f)) := by
  induction ps with
  | nil => rfl
  | cons p ps ih => rw [List.map_cons, laid_cons, laid_cons, List.map_append, List.map_append, ih]

def BlankGaps (ps : List (Text × Text)) : Prop := ∀ p ∈ ps, IsBlankText p.1

theorem BlankGaps.tail {p : Text × Text} {ps : List (Text × Text)} (h : BlankGaps (p :: ps)) :
    BlankGaps ps := fun q hq => h q (List.mem_cons_of_mem _ hq)

theorem BlankGaps.of_subset {ps qs : List (Text × Text)} (h : BlankGaps ps)
    (hsub : qs.map Prod.fst ⊆ ps.map Prod.fst) : BlankGaps qs := by
  intro q hq
  obtain ⟨p, hp, heq⟩ := List.mem_map.1 (hsub (List.mem_map_of_mem hq))
  rw [← heq]
  exact h p hp

theorem BlankGaps.notMem_laid {ps : List (Text × Text)} (h : BlankGaps ps) {c : Char}
    (hc : isBlank c = false) (hps : ∀ p ∈ ps, c ∉ p.2) : c ∉ laid ps := by
  intro hmem
  obtain ⟨p, hp, hmem⟩ := List.mem_flatMap.1 hmem
  rcases List.mem_append.1 hmem with hmem | hmem
  · exact (h p hp).not_mem hc hmem
  · exact hps p hp hmem

/-! ## 3. Squeezing -/

/-- Not empty, and without blanks at the ends. -/
structure IsSolid (t : Text) : Prop where
  ne_nil : t ≠ []
  starts : startsBlank t = false
  ends : endsBlank t = false

instance (t : Text) : Decidable (IsSolid t) :=
  decidable_of_iff (t ≠ [] ∧ startsBlank t = false ∧ endsBlank t = false)
    ⟨fun ⟨h₁, h₂, h₃⟩ => ⟨h₁, h₂, h₃⟩, fun ⟨h₁, h₂, h₃⟩ => ⟨h₁, h₂, h₃⟩⟩

theorem isSolid_of_ink {t : Text} (hne : t ≠ []) (h : ∀ c ∈ t, isBlank c = false) :
    IsSolid t := by
  refine ⟨hne, ?_, ?_⟩
  · cases t with
    | nil => exact absurd rfl hne
    | cons c t => simpa [startsBlank] using h c (by simp)
  · rw [endsBlank, List.getLast?_eq_some_getLast hne, Option.any_some]
    exact h _ (List.getLast_mem hne)

/-- Not empty, and without blanks at all: one word. -/
def IsInk (t : Text) : Prop := t ≠ [] ∧ ∀ c ∈ t, isBlank c = false

instance (t : Text) : Decidable (IsInk t) := by
  unfold IsInk
  infer_instance

theorem IsInk.isSolid {t : Text} (h : IsInk t) : IsSolid t := isSolid_of_ink h.1 h.2

theorem IsInk.squeeze_eq {t : Text} (h : IsInk t) : squeeze t = t := squeeze_ink h.2

theorem IsInk.notMem {t : Text} (h : IsInk t) {c : Char} (hc : isBlank c = true) : c ∉ t := by
  intro hmem
  rw [h.2 c hmem] at hc
  cases hc

theorem IsInk.words_eq {t : Text} (h : IsInk t) : words t = [t] := by
  have hwords := words_append h.1 h.2 (t := []) rfl
  rwa [List.append_nil] at hwords

theorem IsSolid.startsBlank_append {t : Text} (h : IsSolid t) (u : Text) :
    startsBlank (t ++ u) = false := by
  cases t with
  | nil => exact absurd rfl h.ne_nil
  | cons c t => exact h.starts

theorem squeeze_unwords {ws : List Text} (h : ∀ w ∈ ws, IsInk w) :
    squeeze (unwords ws) = unwords ws := by
  induction ws with
  | nil => rfl
  | cons v ws ih =>
    have hv := h v List.mem_cons_self
    cases ws with
    | nil => rw [unwords_singleton, hv.squeeze_eq]
    | cons w ws =>
      have ih := ih fun u hu => h u (List.mem_cons_of_mem _ hu)
      have hw := (h w (List.mem_cons_of_mem _ List.mem_cons_self)).isSolid
      have hstart : startsBlank (unwords (w :: ws)) = false := by
        cases ws with
        | nil =>
          rw [unwords_singleton]
          exact hw.starts
        | cons u ws =>
          rw [unwords_cons_cons]
          exact hw.startsBlank_append _
      have hspace : squeeze (' ' :: unwords (w :: ws)) = ' ' :: unwords (w :: ws) := by
        rw [squeeze, if_pos (by decide), hstart, ih]
        rfl
      rw [unwords_cons_cons, squeeze_append (Or.inl hv.isSolid.ends), hspace, hv.squeeze_eq]

theorem squeeze_collapse (t : Text) : squeeze (collapse t) = collapse t :=
  squeeze_unwords fun _ hw => mem_words hw

/-- What squeezing leaves of a gap. -/
def thin (g : Text) : Text := if g = [] then [] else [' ']

theorem squeeze_gap_append {g t : Text} (hg : IsBlankText g)
    (ht : startsBlank t = false) : squeeze (g ++ t) = thin g ++ squeeze t := by
  unfold thin
  split
  · rename_i h
    rw [h]
    rfl
  · rename_i h
    exact squeeze_blanks_append hg h ht

/-- **Squeezing a laid out text** makes its gaps thin. -/
theorem squeeze_laid {ps : List (Text × Text)} (hgaps : BlankGaps ps)
    (hsolid : ∀ p ∈ ps, IsSolid p.2) :
    squeeze (laid ps) = laid (ps.map fun p => (thin p.1, squeeze p.2)) := by
  induction ps with
  | nil => rfl
  | cons p ps ih =>
    have hp := hsolid p (by simp)
    rw [List.map_cons, laid_cons, laid_cons,
      squeeze_gap_append (hgaps p (by simp)) (hp.startsBlank_append _),
      squeeze_append (Or.inl hp.ends),
      ih hgaps.tail (fun q hq => hsolid q (List.mem_cons_of_mem _ hq))]

theorem isSolid_laid {t : Text} (ht : IsSolid t) {ps : List (Text × Text)}
    (hsolid : ∀ p ∈ ps, IsSolid p.2) : IsSolid (t ++ laid ps) := by
  induction ps generalizing t with
  | nil =>
    rw [laid_nil, List.append_nil]
    exact ht
  | cons p ps ih =>
    have hp := ih (hsolid p (by simp)) fun q hq => hsolid q (List.mem_cons_of_mem _ hq)
    refine ⟨?_, ht.startsBlank_append _, ?_⟩
    · simp [ht.ne_nil]
    · rw [laid_cons, ← List.append_assoc, endsBlank_append hp.ne_nil]
      exact hp.ends

theorem IsSolid.collapse_eq_squeeze {t : Text} (h : IsSolid t) : collapse t = squeeze t := by
  rw [Text.collapse_eq_squeeze h.ends]
  cases t with
  | nil => rfl
  | cons c t =>
    have hc : ¬ isBlank c = true := by simpa [startsBlank] using h.starts
    rw [List.dropWhile_cons_of_neg hc]

/-- **Collapsing a laid out text** drops its first gap besides. -/
theorem collapse_laid_cons {p : Text × Text} {ps : List (Text × Text)}
    (hgaps : BlankGaps (p :: ps)) (hsolid : ∀ q ∈ p :: ps, IsSolid q.2) :
    collapse (laid (p :: ps)) =
      squeeze p.2 ++ laid (ps.map fun q => (thin q.1, squeeze q.2)) := by
  have hp := hsolid p (by simp)
  have hps : ∀ q ∈ ps, IsSolid q.2 := fun q hq => hsolid q (List.mem_cons_of_mem _ hq)
  rw [laid_cons, collapse_blanks_append (hgaps p (by simp)),
    (isSolid_laid hp hps).collapse_eq_squeeze, squeeze_append (Or.inl hp.ends),
    squeeze_laid hgaps.tail hps]

theorem startsBlank_squeeze (t : Text) : startsBlank (squeeze t) = startsBlank t := by
  cases t with
  | nil => rfl
  | cons c t =>
    by_cases hc : isBlank c = true
    · rw [squeeze_of_startsBlank (by simpa [startsBlank] using hc)]
      simpa [startsBlank, hc] using (by decide : isBlank ' ' = true)
    · rw [squeeze_cons_ink (by simpa using hc)]
      rfl

theorem IsSolid.squeeze {t : Text} (h : IsSolid t) : IsSolid (squeeze t) := by
  rcases List.eq_nil_or_concat t with rfl | ⟨a, c, rfl⟩
  · exact absurd rfl h.ne_nil
  · rw [List.concat_eq_append] at h ⊢
    -- the last character is not blank, so squeezing keeps it where it is
    have hc : isBlank c = false := by simpa [endsBlank] using h.ends
    have hlast : Text.squeeze (a ++ [c]) = Text.squeeze a ++ [c] := by
      rw [squeeze_append (Or.inr (by simpa [startsBlank] using hc)),
        squeeze_ink (w := [c]) (by simpa using hc)]
    refine ⟨?_, ?_, ?_⟩
    · rw [hlast]
      simp
    · rw [startsBlank_squeeze, h.starts]
    · rw [hlast, endsBlank_append (by simp)]
      simpa [endsBlank] using hc

theorem IsSolid.trim_eq {t : Text} (h : IsSolid t) : trim t = t := by
  have hstart : trimStart t = t := by
    cases t with
    | nil => rfl
    | cons c t =>
      have hc : ¬ isBlank c = true := by simpa [startsBlank] using h.starts
      exact List.dropWhile_cons_of_neg hc
  have hend : trimEnd t = t := by
    have hrev : t.reverse.dropWhile isBlank = t.reverse := by
      have := h.ends
      rw [endsBlank, ← List.head?_reverse] at this
      cases hr : t.reverse with
      | nil => rfl
      | cons c r =>
        rw [hr] at this
        exact List.dropWhile_cons_of_neg (by simpa using this)
    rw [trimEnd, hrev, List.reverse_reverse]
  rw [trim, hstart, hend]

/-! ## 4. Words -/

theorem exists_last_run (t : Text) : ∃ a p, t = a ++ p ∧ (∀ c ∈ p, isBlank c = false) ∧
    (a = [] ∨ endsBlank a = true) := by
  refine ⟨(t.reverse.dropWhile fun c => !isBlank c).reverse,
    (t.reverse.takeWhile fun c => !isBlank c).reverse, ?_, ?_, ?_⟩
  · rw [← List.reverse_append, List.takeWhile_append_dropWhile, List.reverse_reverse]
  · intro c hc
    simpa using List.mem_takeWhile_imp (List.mem_reverse.1 hc)
  · cases hrest : t.reverse.dropWhile fun c => !isBlank c with
    | nil => exact Or.inl rfl
    | cons c u =>
      right
      have hc := List.head?_dropWhile_not (fun c => !isBlank c) t.reverse
      rw [hrest] at hc
      simpa [endsBlank] using hc

/-- Where two texts meet, either no word reaches from the one into the other, or the last word
    of the one and the first word of the other become one word. -/
theorem words_append_cases (x y : Text) :
    words (x ++ y) = words x ++ words y ∨
      ∃ ws p q vs, words x = ws ++ [p] ∧ words y = q :: vs ∧
        words (x ++ y) = ws ++ (p ++ q) :: vs ∧ p.getLast? = x.getLast? ∧
        q.head? = y.head? := by
  obtain ⟨a, p, rfl, hp, ha⟩ := exists_last_run x
  have hsplit : ∀ u, words (a ++ u) = words a ++ words u := by
    intro u
    rcases ha with rfl | ha
    · rfl
    · exact words_append_of_boundary (Or.inl ha)
  have hy : y.takeWhile (fun c => !isBlank c) ++ y.dropWhile (fun c => !isBlank c) = y :=
    List.takeWhile_append_dropWhile
  have hq : ∀ c ∈ y.takeWhile fun c => !isBlank c, isBlank c = false := by
    intro c hc
    simpa using List.mem_takeWhile_imp hc
  have hrest : startsWord (y.dropWhile fun c => !isBlank c) = false := by
    have hhead := List.head?_dropWhile_not (fun c => !isBlank c) y
    cases hdrop : y.dropWhile fun c => !isBlank c with
    | nil => rfl
    | cons c u =>
      rw [hdrop] at hhead
      simpa [startsWord] using hhead
  generalize y.takeWhile (fun c => !isBlank c) = q at hy hq
  generalize y.dropWhile (fun c => !isBlank c) = b at hy hrest
  subst hy
  by_cases hpnil : p = []
  · left
    rw [hpnil, List.append_nil, hsplit]
  · have hpwords : words p = [p] := IsInk.words_eq ⟨hpnil, hp⟩
    by_cases hqnil : q = []
    · left
      rw [hqnil, List.nil_append, List.append_assoc, hsplit, words_append hpnil hp hrest,
        hsplit, hpwords, List.append_assoc]
      rfl
    · right
      have hpq : ∀ c ∈ p ++ q, isBlank c = false := by
        intro c hc
        exact (List.mem_append.1 hc).elim (hp c) (hq c)
      refine ⟨words a, p, q, words b, ?_, ?_, ?_, ?_, ?_⟩
      · rw [hsplit, hpwords]
      · exact words_append hqnil hq hrest
      · rw [List.append_assoc, hsplit, ← List.append_assoc p,
          words_append (by simp [hpnil]) hpq hrest]
      · rw [List.getLast?_append_of_ne_nil _ hpnil]
      · rw [List.head?_append_of_ne_nil _ hqnil]

/-- Two neighbours do not touch: there is a gap, or a blank on either side. -/
def AreApart (p q : Text × Text) : Prop :=
  q.1 ≠ [] ∨ endsBlank p.2 = true ∨ startsBlank q.2 = true

/-- **The words of a laid out text** are those of what stands behind its gaps. -/
theorem words_laid {ps : List (Text × Text)} (hgaps : BlankGaps ps)
    (hapart : ps.IsChain AreApart) : words (laid ps) = ps.flatMap fun p => words p.2 := by
  induction ps with
  | nil => rfl
  | cons p ps ih =>
    rw [laid_cons, words_blanks_append (hgaps p (by simp)), List.flatMap_cons,
      ← ih hgaps.tail hapart.tail]
    cases ps with
    | nil => rw [laid_nil, words, List.append_nil, List.append_nil]
    | cons q qs =>
      apply words_append_of_boundary
      have hblank := hgaps.tail q (by simp)
      rw [laid_cons]
      rcases (List.isChain_cons_cons.1 hapart).1 with h | h | h
      · right
        obtain ⟨c, g, hg⟩ := List.exists_cons_of_ne_nil h
        rw [hg] at hblank ⊢
        simpa [startsBlank] using hblank c (by simp)
      · exact Or.inl h
      · right
        cases hg : q.1 with
        | nil =>
          cases hq : q.2 with
          | nil =>
            rw [hq] at h
            cases h
          | cons c u =>
            rw [hq] at h
            exact h
        | cons c g =>
          rw [hg] at hblank
          simpa [startsBlank] using hblank c (by simp)

/-- The same for the words that are left when some characters are read as blanks. -/
theorem words_map_laid {f : Char → Char} (hf : ∀ c, isBlank c = true → isBlank (f c) = true)
    {ps : List (Text × Text)} (hgaps : BlankGaps ps)
    (hapart : ps.IsChain fun p q =>
      q.1 ≠ [] ∨ endsBlank (p.2.map f) = true ∨ startsBlank (q.2.map f) = true) :
    words ((laid ps).map f) = ps.flatMap fun p => words (p.2.map f) := by
  rw [map_laid, words_laid, List.flatMap_map]
  · intro q hq c hc
    obtain ⟨p, hp, rfl⟩ := List.mem_map.1 hq
    obtain ⟨d, hd, rfl⟩ := List.mem_map.1 hc
    exact hf d (hgaps p hp d hd)
  · rw [List.isChain_map]
    apply hapart.imp
    intro p q h
    rcases h with h | h
    · left
      simpa using h
    · exact Or.inr h

/-- Reading some characters as blanks, the words of a text are those of its squeezed form. -/
theorem words_map_squeeze {f : Char → Char} (hf : ∀ c, isBlank c = true → isBlank (f c) = true)
    (t : Text) : words ((squeeze t).map f) = words (t.map f) := by
  have hspace : isBlank (f ' ') = true := hf ' ' (by decide)
  have hstart : ∀ t, startsWord ((squeeze t).map f) = startsWord (t.map f) := by
    intro t
    cases t with
    | nil => rfl
    | cons c t =>
      by_cases hc : isBlank c = true
      · rw [squeeze_of_startsBlank (by simpa [startsBlank] using hc)]
        simp [startsWord, hspace, hf c hc]
      · rw [squeeze_cons_ink (by simpa using hc)]
        rfl
  induction t with
  | nil => rfl
  | cons c t ih =>
    by_cases hc : isBlank c = true
    · rw [List.map_cons, words_cons_blank (hf c hc), squeeze, hc, if_pos rfl]
      split
      · exact ih
      · rw [List.map_cons, words_cons_blank hspace, ih]
    · rw [squeeze_cons_ink (by simpa using hc), List.map_cons, List.map_cons]
      by_cases hfc : isBlank (f c) = true
      · rw [words_cons_blank hfc, words_cons_blank hfc, ih]
      · have hfc : isBlank (f c) = false := by simpa using hfc
        rw [words_cons_ink hfc, words_cons_ink hfc, ih, hstart]

theorem isBlank_blankOutside_of_isBlank {c : Char} (hc : isBlank c = true) :
    isBlank (blankOutside c) = true := by
  apply isBlank_blankOutside
  by_contra h
  rw [isBlank_of_isIdent (by simpa using h)] at hc
  cases hc

theorem names_blanks_append {b : Text} (hb : IsBlankText b) (t : Text) :
    names (b ++ t) = names t := by
  rw [names, List.map_append, words_blanks_append, names]
  intro d hd
  obtain ⟨c, hc, rfl⟩ := List.mem_map.1 hd
  exact isBlank_blankOutside_of_isBlank (hb c hc)

theorem names_append_blanks {b : Text} (hb : IsBlankText b) (t : Text) :
    names (t ++ b) = names t := by
  rw [names, List.map_append, words_append_blanks, names]
  intro d hd
  obtain ⟨c, hc, rfl⟩ := List.mem_map.1 hd
  exact isBlank_blankOutside_of_isBlank (hb c hc)

theorem names_squeeze (t : Text) : names (squeeze t) = names t :=
  words_map_squeeze (fun _ => isBlank_blankOutside_of_isBlank) t

end HeaderBindings.Text
