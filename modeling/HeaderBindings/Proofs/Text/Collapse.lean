import HeaderBindings.Text.Basic
import Mathlib.Data.List.Infix
import Mathlib.Data.List.TakeWhile

/-!
# Collapsing a text in parts

`Text.collapse` looks at a whole text at once: it drops the blanks at the ends and writes
one space for every other run.  To follow it through a text that is given in parts, the
runs at the ends have to be kept.  `squeeze` writes one space for *every* run of blanks,
so that squeezing two parts is squeezing their concatenation wherever no run of blanks is
cut in two (`squeeze_append`); and collapsing is squeezing what is left between the ends
(`collapse_eq_squeeze`).

All laws of words come from one equation, `words_append_blank`: words split at a blank.
-/

namespace HeaderBindings

/-- What is asked of the characters of a text is decided along the text, rather than for
    all characters there are. -/
instance (priority := high) decidableForallMem {p : Char → Prop} [DecidablePred p] (t : Text) :
    Decidable (∀ c ∈ t, p c) :=
  List.decidableBAll p t

/-- A text of blanks. -/
def IsBlankText (t : Text) : Prop := ∀ c ∈ t, isBlank c = true

instance (t : Text) : Decidable (IsBlankText t) := by
  unfold IsBlankText
  infer_instance

theorem IsBlankText.not_mem {t : Text} (h : IsBlankText t) {c : Char}
    (hc : isBlank c = false) : c ∉ t := by
  intro hmem
  rw [h c hmem] at hc
  cases hc

theorem ne_of_isBlank {c d : Char} (hc : isBlank c = true) (hd : isBlank d = false) : c ≠ d := by
  rintro rfl
  rw [hc] at hd
  cases hd

namespace Text

/-! ## 1. Words split at blanks -/

/-- **Words split at a blank.** -/
theorem words_append_blank {c : Char} (hc : isBlank c = true) (x y : Text) :
    words (x ++ c :: y) = words x ++ words y := by
  induction x with
  | nil => rw [List.nil_append, words_cons_blank hc, words, List.nil_append]
  | cons d x ih =>
    by_cases hd : isBlank d = true
    · rw [List.cons_append, words_cons_blank hd, words_cons_blank hd, ih]
    · have hd : isBlank d = false := by simpa using hd
      rw [List.cons_append, words_cons_ink hd, words_cons_ink hd, ih]
      cases x with
      | nil =>
        have hstart : startsWord (c :: y) = false := by simp [startsWord, hc]
        rw [List.nil_append, hstart]
        cases words y with
        | nil => simp [words, glue]
        | cons w ws => simp [words, glue]
      | cons e x =>
        have hstart : startsWord (e :: x ++ c :: y) = startsWord (e :: x) := rfl
        rw [hstart]
        cases hw : words (e :: x) with
        | nil =>
          have hblank : startsWord (e :: x) = false := by
            by_contra h
            exact words_ne_nil_of_startsWord (by simpa using h) hw
          rw [hblank]
          cases words y with
          | nil => rfl
          | cons w ws => rfl
        | cons w ws => cases startsWord (e :: x) <;> rfl

theorem words_blanks_append {b : Text} (hb : ∀ c ∈ b, isBlank c = true) (t : Text) :
    words (b ++ t) = words t := by
  induction b with
  | nil => rfl
  | cons c b ih =>
    rw [List.cons_append, words_cons_blank (hb c (by simp)),
      ih (fun d hd => hb d (List.mem_cons_of_mem _ hd))]

theorem words_append_blanks {b : Text} (hb : ∀ c ∈ b, isBlank c = true) (t : Text) :
    words (t ++ b) = words t := by
  cases b with
  | nil => rw [List.append_nil]
  | cons c b =>
    have hrest : words b = [] := by
      apply words_eq_nil_of_not_ink
      rw [List.all_eq_true]
      intro d hd
      exact hb d (List.mem_cons_of_mem _ hd)
    rw [words_append_blank (hb c (by simp)), hrest, List.append_nil]

theorem isBlank_of_words_eq_nil {t : Text} (h : words t = []) : ∀ c ∈ t, isBlank c = true := by
  induction t with
  | nil => simp
  | cons d t ih =>
    by_cases hd : isBlank d = true
    · rw [words_cons_blank hd] at h
      intro c hc
      rcases List.mem_cons.1 hc with rfl | hc
      · exact hd
      · exact ih h c hc
    · exfalso
      exact words_ne_nil_of_startsWord (t := d :: t) (by simpa [startsWord] using hd) h

theorem words_eq_nil_iff {t : Text} : words t = [] ↔ IsBlankText t :=
  ⟨isBlank_of_words_eq_nil, fun h => words_eq_nil_of_not_ink (List.all_eq_true.2 h)⟩

/-- A text of one word without blanks at its ends is that word. -/
theorem eq_of_words_eq_singleton {t w : Text} (h : words t = [w]) (hstart : startsWord t = true)
    (hend : t.getLast?.any isBlank = false) : t = w := by
  induction t generalizing w with
  | nil => cases hstart
  | cons c t ih =>
    have hc : isBlank c = false := by simpa [startsWord] using hstart
    rw [words_cons_ink hc] at h
    cases hw : words t with
    | nil =>
      -- blanks would be left at the end
      rw [hw, glue, List.singleton_inj] at h
      cases t with
      | nil => exact h
      | cons d t =>
        have hlast : ∀ e ∈ (d :: t).getLast?, isBlank e = true :=
          fun e he => isBlank_of_words_eq_nil hw e (List.mem_of_getLast? he)
        rw [List.getLast?_cons_of_ne_nil (List.cons_ne_nil d t), List.getLast?_cons] at hend
        rw [List.getLast?_cons] at hlast
        rw [Option.any_some, hlast _ rfl] at hend
        cases hend
    | cons v vs =>
      rw [hw] at h
      cases hs : startsWord t with
      | false =>
        rw [hs, glue, if_neg Bool.false_ne_true] at h
        cases h
      | true =>
        have hne : t ≠ [] := by
          rintro rfl
          cases hs
        rw [hs, glue, if_pos rfl, List.cons_eq_cons] at h
        obtain ⟨rfl, rfl⟩ := h
        rw [List.getLast?_cons_of_ne_nil hne] at hend
        rw [← ih hw hs hend]

theorem words_trimStart (t : Text) : words (trimStart t) = words t := by
  have h := words_blanks_append (b := t.takeWhile isBlank)
    (fun c hc => List.mem_takeWhile_imp hc) (t.dropWhile isBlank)
  rw [List.takeWhile_append_dropWhile] at h
  exact h.symm

theorem words_trimEnd (t : Text) : words (trimEnd t) = words t := by
  have hb : ∀ c ∈ (t.reverse.takeWhile isBlank).reverse, isBlank c = true := by
    intro c hc
    exact List.mem_takeWhile_imp (List.mem_reverse.1 hc)
  have h := words_append_blanks hb (trimEnd t)
  have ht : trimEnd t ++ (t.reverse.takeWhile isBlank).reverse = t := by
    rw [trimEnd, ← List.reverse_append, List.takeWhile_append_dropWhile, List.reverse_reverse]
  rw [ht] at h
  exact h.symm

theorem words_trim (t : Text) : words (trim t) = words t := by
  rw [trim, words_trimEnd, words_trimStart]

theorem mem_of_mem_words {t w : Text} {c : Char} (hw : w ∈ words t) (hc : c ∈ w) : c ∈ t := by
  induction t generalizing w with
  | nil => simp [words] at hw
  | cons d t ih =>
    by_cases hd : isBlank d = true
    · rw [words_cons_blank hd] at hw
      exact List.mem_cons_of_mem _ (ih hw hc)
    · have hd : isBlank d = false := by simpa using hd
      rw [words_cons_ink hd] at hw
      cases hws : words t with
      | nil =>
        rw [hws, glue, List.mem_singleton] at hw
        subst hw
        rw [List.mem_singleton] at hc
        simp [hc]
      | cons v vs =>
        rw [hws] at hw ih
        cases hs : startsWord t with
        | true =>
          rw [hs, glue, if_pos rfl, List.mem_cons] at hw
          rcases hw with rfl | hw
          · rcases List.mem_cons.1 hc with rfl | hc
            · simp
            · exact List.mem_cons_of_mem _ (ih (by simp) hc)
          · exact List.mem_cons_of_mem _ (ih (List.mem_cons_of_mem _ hw) hc)
        | false =>
          rw [hs, glue, if_neg Bool.false_ne_true, List.mem_cons] at hw
          rcases hw with rfl | hw
          · rw [List.mem_singleton] at hc
            simp [hc]
          · exact List.mem_cons_of_mem _ (ih hw hc)

/-- A word that the text begins with stands at its beginning. -/
theorem isPrefix_of_words_eq_cons {t v : Text} {vs : List Text} (h : words t = v :: vs)
    (hstart : startsWord t = true) : v <+: t := by
  induction t generalizing v vs with
  | nil => cases hstart
  | cons c t ih =>
    have hc : isBlank c = false := by simpa [startsWord] using hstart
    rw [words_cons_ink hc] at h
    cases hw : words t with
    | nil =>
      rw [hw, glue, List.cons_eq_cons] at h
      rw [← h.1]
      exact ⟨t, rfl⟩
    | cons w ws =>
      rw [hw] at h
      cases hs : startsWord t with
      | true =>
        rw [hs, glue, if_pos rfl, List.cons_eq_cons] at h
        rw [← h.1]
        exact List.cons_prefix_cons.2 ⟨rfl, ih hw hs⟩
      | false =>
        rw [hs, glue, if_neg Bool.false_ne_true, List.cons_eq_cons] at h
        rw [← h.1]
        exact ⟨t, rfl⟩

theorem isInfix_of_mem_words {t w : Text} (h : w ∈ words t) : w <:+: t := by
  induction t with
  | nil => cases h
  | cons c t ih =>
    by_cases hc : isBlank c = true
    · rw [words_cons_blank hc] at h
      exact (ih h).trans (List.suffix_cons c t).isInfix
    · have hstart : startsWord (c :: t) = true := by simpa [startsWord] using hc
      cases hw : words (c :: t) with
      | nil =>
        rw [hw] at h
        cases h
      | cons v vs =>
        rw [hw] at h
        rcases List.mem_cons.1 h with rfl | h
        · exact (isPrefix_of_words_eq_cons hw hstart).isInfix
        · -- the words behind the first one are words of the rest
          refine (ih ?_).trans (List.suffix_cons c t).isInfix
          rw [words_cons_ink (by simpa using hc)] at hw
          cases ht : words t with
          | nil =>
            rw [ht, glue, List.cons_eq_cons] at hw
            rw [← hw.2] at h
            cases h
          | cons u us =>
            rw [ht] at hw
            cases hs : startsWord t with
            | true =>
              rw [hs, glue, if_pos rfl, List.cons_eq_cons] at hw
              rw [hw.2]
              exact List.mem_cons_of_mem _ h
            | false =>
              rw [hs, glue, if_neg Bool.false_ne_true, List.cons_eq_cons] at hw
              rw [hw.2]
              exact h

/-! ## 2. Squeezing -/

theorem any_head?_dropWhile (p : Char → Bool) (t : Text) :
    (t.dropWhile p).head?.any p = false := by
  have := List.head?_dropWhile_not p t
  cases hx : (t.dropWhile p).head? with
  | none => rfl
  | some c =>
    rw [hx] at this
    simpa using this

def startsBlank (t : Text) : Bool := t.head?.any isBlank

def endsBlank (t : Text) : Bool := t.getLast?.any isBlank

/-- Every run of blanks becomes one space, also at the ends. -/
def squeeze : Text → Text
  | [] => []
  | c :: t =>
    if isBlank c then if startsBlank t then squeeze t else ' ' :: squeeze t
    else c :: squeeze t

theorem squeeze_cons_ink {c : Char} (hc : isBlank c = false) (t : Text) :
    squeeze (c :: t) = c :: squeeze t := by
  simp [squeeze, hc]

theorem squeeze_blanks_append {b : Text} (hb : ∀ c ∈ b, isBlank c = true) (hne : b ≠ [])
    {t : Text} (ht : startsBlank t = false) : squeeze (b ++ t) = ' ' :: squeeze t := by
  induction b with
  | nil => exact absurd rfl hne
  | cons c b ih =>
    have hc := hb c (by simp)
    cases b with
    | nil => simp [squeeze, hc, ht]
    | cons d b =>
      have hd : startsBlank (d :: b ++ t) = true := by
        simpa [startsBlank] using hb d (by simp)
      rw [List.cons_append, squeeze, hc, if_pos rfl, hd, if_pos rfl]
      exact ih (fun e he => hb e (List.mem_cons_of_mem _ he)) (by simp)

theorem squeeze_of_startsBlank {t : Text} (h : startsBlank t = true) :
    squeeze t = ' ' :: squeeze (t.dropWhile isBlank) := by
  have hrun : ∀ c ∈ t.takeWhile isBlank, isBlank c = true := by
    intro c hc
    exact List.mem_takeWhile_imp hc
  have hne : t.takeWhile isBlank ≠ [] := by
    cases t with
    | nil => simp [startsBlank] at h
    | cons c t =>
      have hc : isBlank c = true := by simpa [startsBlank] using h
      simp [hc]
  have := squeeze_blanks_append hrun hne (any_head?_dropWhile isBlank t)
  rwa [List.takeWhile_append_dropWhile] at this

theorem squeeze_ink {w : Text} (hw : ∀ c ∈ w, isBlank c = false) : squeeze w = w := by
  induction w with
  | nil => rfl
  | cons c w ih =>
    rw [squeeze_cons_ink (hw c (by simp)), ih (fun d hd => hw d (List.mem_cons_of_mem _ hd))]

/-- **Squeezing in parts**, where no run of blanks is cut in two. -/
theorem squeeze_append {a b : Text} (h : endsBlank a = false ∨ startsBlank b = false) :
    squeeze (a ++ b) = squeeze a ++ squeeze b := by
  induction a with
  | nil => rfl
  | cons c a ih =>
    cases a with
    | nil =>
      by_cases hc : isBlank c = true
      · have hb : startsBlank b = false := by
          rcases h with h | h
          · simp [endsBlank, hc] at h
          · exact h
        have hnil : startsBlank [] = false := rfl
        rw [List.cons_append, List.nil_append, squeeze, squeeze, hc, hb, hnil]
        rfl
      · have hc : isBlank c = false := by simpa using hc
        rw [List.cons_append, squeeze_cons_ink hc, squeeze_cons_ink hc]
        rfl
    | cons d a =>
      have hends : endsBlank (c :: d :: a) = endsBlank (d :: a) := by
        simp [endsBlank, List.getLast?_cons_cons]
      rw [hends] at h
      have ih := ih h
      have hstart : startsBlank (d :: a ++ b) = startsBlank (d :: a) := rfl
      by_cases hc : isBlank c = true
      · rw [List.cons_append, squeeze, squeeze, hc, hstart, ih]
        cases startsBlank (d :: a) <;> rfl
      · have hc : isBlank c = false := by simpa using hc
        rw [List.cons_append, squeeze_cons_ink hc, squeeze_cons_ink hc, ih, List.cons_append]

theorem endsBlank_append {b : Text} (hb : b ≠ []) (a : Text) :
    endsBlank (a ++ b) = endsBlank b := by
  rw [endsBlank, endsBlank, List.getLast?_append, List.getLast?_eq_some_getLast hb,
    Option.some_or]

theorem endsBlank_flatten {ts : List Text} (h : ∀ t ∈ ts, endsBlank t = false) :
    endsBlank ts.flatten = false := by
  induction ts with
  | nil => rfl
  | cons t ts ih =>
    have ih := ih (fun u hu => h u (List.mem_cons_of_mem _ hu))
    rw [List.flatten_cons]
    by_cases hne : ts.flatten = []
    · rw [hne, List.append_nil]
      exact h t (by simp)
    · rw [endsBlank_append hne, ih]

theorem squeeze_flatten {ts : List Text} (h : ∀ t ∈ ts, endsBlank t = false) :
    squeeze ts.flatten = (ts.map squeeze).flatten := by
  induction ts with
  | nil => rfl
  | cons t ts ih =>
    rw [List.flatten_cons, List.map_cons, List.flatten_cons,
      squeeze_append (Or.inl (h t (by simp))), ih (fun u hu => h u (List.mem_cons_of_mem _ hu))]

theorem startsWord_squeeze (t : Text) : startsWord (squeeze t) = startsWord t := by
  cases t with
  | nil => rfl
  | cons c t =>
    by_cases hc : isBlank c = true
    · rw [squeeze_of_startsBlank (by simpa [startsBlank] using hc)]
      simpa [startsWord, hc] using (by decide : isBlank ' ' = true)
    · have hc : isBlank c = false := by simpa using hc
      rw [squeeze_cons_ink hc]
      rfl

theorem words_squeeze (t : Text) : words (squeeze t) = words t := by
  induction t with
  | nil => rfl
  | cons c t ih =>
    by_cases hc : isBlank c = true
    · rw [words_cons_blank hc, squeeze, hc, if_pos rfl]
      split
      · exact ih
      · rw [words_cons_blank (by rfl), ih]
    · have hc : isBlank c = false := by simpa using hc
      rw [squeeze_cons_ink hc, words_cons_ink hc, words_cons_ink hc, ih, startsWord_squeeze]

theorem mem_of_mem_squeeze {t : Text} {c : Char} (h : c ∈ squeeze t) : c ∈ t ∨ c = ' ' := by
  induction t with
  | nil => simp [squeeze] at h
  | cons d t ih =>
    rw [squeeze] at h
    split at h
    · split at h
      · rcases ih h with h | h
        · exact Or.inl (List.mem_cons_of_mem _ h)
        · exact Or.inr h
      · rcases List.mem_cons.1 h with h | h
        · exact Or.inr h
        · rcases ih h with h | h
          · exact Or.inl (List.mem_cons_of_mem _ h)
          · exact Or.inr h
    · rcases List.mem_cons.1 h with rfl | h
      · exact Or.inl (by simp)
      · rcases ih h with h | h
        · exact Or.inl (List.mem_cons_of_mem _ h)
        · exact Or.inr h

theorem mem_squeeze_of_mem {t : Text} {c : Char} (h : c ∈ t) (hc : isBlank c = false) :
    c ∈ squeeze t := by
  induction t with
  | nil => cases h
  | cons d t ih =>
    by_cases hd : isBlank d = true
    · have hmem : c ∈ t := by
        rcases List.mem_cons.1 h with rfl | h
        · rw [hd] at hc
          cases hc
        · exact h
      rw [squeeze, hd, if_pos rfl]
      split
      · exact ih hmem
      · exact List.mem_cons_of_mem _ (ih hmem)
    · rw [squeeze_cons_ink (by simpa using hd)]
      rcases List.mem_cons.1 h with rfl | h
      · simp
      · exact List.mem_cons_of_mem _ (ih h)

/-- Squeezing keeps count of the characters that are not blank. -/
theorem count_squeeze {c : Char} (hc : isBlank c = false) (t : Text) :
    (squeeze t).count c = t.count c := by
  have hne : ∀ d, isBlank d = true → d ≠ c := by
    rintro d hd rfl
    rw [hc] at hd
    cases hd
  induction t with
  | nil => rfl
  | cons d t ih =>
    by_cases hd : isBlank d = true
    · rw [List.count_cons_of_ne (hne d hd), squeeze, hd, if_pos rfl]
      split
      · exact ih
      · rw [List.count_cons_of_ne (hne ' ' (by decide)), ih]
    · rw [squeeze_cons_ink (by simpa using hd), List.count_cons, List.count_cons, ih]

theorem span_of_startsBlank {t : Text} (h : startsBlank t = false) :
    t.takeWhile isBlank = [] ∧ t.dropWhile isBlank = t := by
  cases t with
  | nil => exact ⟨rfl, rfl⟩
  | cons c t =>
    have hc : ¬ isBlank c = true := by simpa [startsBlank] using h
    exact ⟨List.takeWhile_cons_of_neg hc, List.dropWhile_cons_of_neg hc⟩

theorem length_squeeze_le (t : Text) : (squeeze t).length ≤ t.length := by
  induction t with
  | nil => exact Nat.le_refl _
  | cons c t ih =>
    rw [squeeze]
    split
    · split
      · exact Nat.le_succ_of_le ih
      · exact Nat.succ_le_succ ih
    · exact Nat.succ_le_succ ih

/-- In a squeezed text every blank is a space, and none stands behind it. -/
theorem squeeze_cons_eq_iff {c : Char} {t : Text} :
    squeeze (c :: t) = c :: t ↔
      (isBlank c = true → c = ' ' ∧ startsBlank t = false) ∧ squeeze t = t := by
  by_cases hc : isBlank c = true
  · rw [squeeze, if_pos hc]
    by_cases ht : startsBlank t = true
    · rw [if_pos ht]
      constructor
      · intro h
        have hle := length_squeeze_le t
        rw [h, List.length_cons] at hle
        omega
      · rintro ⟨h, -⟩
        rw [(h hc).2] at ht
        cases ht
    · rw [if_neg ht, List.cons_eq_cons]
      constructor
      · rintro ⟨rfl, h⟩
        exact ⟨fun _ => ⟨rfl, Bool.eq_false_iff.2 ht⟩, h⟩
      · rintro ⟨h, htail⟩
        exact ⟨(h hc).1.symm, htail⟩
  · rw [squeeze_cons_ink (Bool.eq_false_iff.2 hc), List.cons_eq_cons]
    exact ⟨fun h => ⟨fun hblank => absurd hblank hc, h.2⟩, fun h => ⟨rfl, h.2⟩⟩

theorem squeeze_right {a b : Text} (h : squeeze (a ++ b) = a ++ b) : squeeze b = b := by
  induction a with
  | nil => exact h
  | cons c a ih => exact ih (squeeze_cons_eq_iff.1 h).2

/-! ## 3. Collapsing -/

theorem joinWith_cons_cons (sep v w : Text) (ws : List Text) :
    joinWith sep (v :: w :: ws) = v ++ sep ++ joinWith sep (w :: ws) := by
  rw [joinWith, List.intercalate_cons_cons]
  rfl

theorem joinWith_singleton (sep w : Text) : joinWith sep [w] = w := by
  rw [joinWith, List.intercalate_singleton]

theorem joinWith_cons (sep w : Text) (ws : List Text) :
    joinWith sep (w :: ws) = w ++ ws.flatMap (sep ++ ·) := by
  induction ws generalizing w with
  | nil => simp [joinWith_singleton]
  | cons v ws ih => rw [joinWith_cons_cons, ih v, List.flatMap_cons, List.append_assoc,
      List.append_assoc]

theorem mem_joinWith {sep w : Text} {ws : List Text} {c : Char} (hw : w ∈ ws) (hc : c ∈ w) :
    c ∈ joinWith sep ws := by
  cases ws with
  | nil => cases hw
  | cons v ws =>
    rw [joinWith_cons]
    rcases List.mem_cons.1 hw with rfl | hw
    · exact List.mem_append_left _ hc
    · exact List.mem_append_right _ (List.mem_flatMap.2 ⟨w, hw, List.mem_append_right _ hc⟩)

theorem mem_of_mem_joinWith {sep : Text} {ws : List Text} {c : Char}
    (h : c ∈ joinWith sep ws) : (∃ w ∈ ws, c ∈ w) ∨ c ∈ sep := by
  cases ws with
  | nil => cases h
  | cons v ws =>
    rw [joinWith_cons] at h
    rcases List.mem_append.1 h with h | h
    · exact Or.inl ⟨v, List.mem_cons_self, h⟩
    · obtain ⟨w, hw, h⟩ := List.mem_flatMap.1 h
      rcases List.mem_append.1 h with h | h
      · exact Or.inr h
      · exact Or.inl ⟨w, List.mem_cons_of_mem _ hw, h⟩

theorem unwords_cons_cons (v w : Text) (ws : List Text) :
    unwords (v :: w :: ws) = v ++ ' ' :: unwords (w :: ws) := by
  rw [unwords, joinWith_cons_cons, List.append_assoc]
  rfl

theorem unwords_singleton (w : Text) : unwords [w] = w := joinWith_singleton [' '] w

theorem unwords_ne_nil {w : Text} (hw : w ≠ []) (ws : List Text) : unwords (w :: ws) ≠ [] := by
  rw [unwords, joinWith_cons]
  exact List.append_ne_nil_of_left_ne_nil hw _

theorem unwords_cons_word (c : Char) (w : Text) (ws : List Text) :
    unwords ((c :: w) :: ws) = c :: unwords (w :: ws) := by
  cases ws with
  | nil => rw [unwords_singleton, unwords_singleton]
  | cons v ws => rw [unwords_cons_cons, unwords_cons_cons, List.cons_append]

/-- A text that does not end with a blank has a word. -/
theorem words_ne_nil_of_endsBlank {t : Text} (hne : t ≠ []) (h : endsBlank t = false) :
    words t ≠ [] := by
  intro hw
  have hblank := isBlank_of_words_eq_nil hw (t.getLast hne) (List.getLast_mem hne)
  rw [endsBlank, List.getLast?_eq_some_getLast hne, Option.any_some, hblank] at h
  cases h

/-- **Collapsing is squeezing** a text that does not end with a blank, without the blanks
    it begins with. -/
theorem collapse_eq_squeeze {t : Text} (h : endsBlank t = false) :
    collapse t = squeeze (t.dropWhile isBlank) := by
  unfold collapse
  induction t with
  | nil => rfl
  | cons c t ih =>
    have ih : endsBlank t = false → unwords (words t) = squeeze (t.dropWhile isBlank) := ih
    have htail : t ≠ [] → endsBlank t = false := by
      intro hne
      cases t with
      | nil => exact absurd rfl hne
      | cons d t => simpa [endsBlank, List.getLast?_cons_cons] using h
    by_cases hc : isBlank c = true
    · have hne : t ≠ [] := by
        rintro rfl
        simp [endsBlank, hc] at h
      rw [words_cons_blank hc, List.dropWhile_cons_of_pos hc, ih (htail hne)]
    · rw [List.dropWhile_cons_of_neg hc]
      have hc : isBlank c = false := by simpa using hc
      rw [words_cons_ink hc, squeeze_cons_ink hc]
      cases t with
      | nil => rfl
      | cons d t =>
        have ih := ih (htail (by simp))
        by_cases hd : isBlank d = true
        · -- a new word begins behind the run of blanks
          have hstart : startsWord (d :: t) = false := by simp [startsWord, hd]
          rw [squeeze_of_startsBlank (by simpa [startsBlank] using hd), ← ih, hstart]
          cases hw : words (d :: t) with
          | nil =>
            -- there is a word behind it, since the text does not end with a blank
            exact absurd hw (words_ne_nil_of_endsBlank (by simp) (htail (by simp)))
          | cons w ws =>
            rw [glue, if_neg Bool.false_ne_true, unwords_cons_cons]
            rfl
        · -- the character belongs to the first word
          have hd' : isBlank d = false := by simpa using hd
          have hstart : startsWord (d :: t) = true := by simp [startsWord, hd']
          rw [List.dropWhile_cons_of_neg hd] at ih
          rw [hstart]
          cases hw : words (d :: t) with
          | nil => exact absurd hw (words_ne_nil_of_startsWord hstart)
          | cons w ws =>
            rw [hw] at ih
            rw [glue, if_pos rfl, unwords_cons_word, ih]

theorem mem_of_mem_unwords {ws : List Text} {c : Char} (h : c ∈ unwords ws) :
    (∃ w ∈ ws, c ∈ w) ∨ c = ' ' := by
  rcases mem_of_mem_joinWith h with h | h
  · exact Or.inl h
  · exact Or.inr (List.mem_singleton.1 h)

/-- Collapsing keeps of the blanks spaces only. -/
theorem ink_of_mem_collapse {t : Text} {c : Char} (h : c ∈ collapse t) :
    (c ∈ t ∧ isBlank c = false) ∨ c = ' ' := by
  rcases mem_of_mem_unwords h with ⟨w, hw, hc⟩ | h
  · exact Or.inl ⟨mem_of_mem_words hw hc, (mem_words hw).2 c hc⟩
  · exact Or.inr h

theorem mem_of_mem_collapse {t : Text} {c : Char} (h : c ∈ collapse t) : c ∈ t ∨ c = ' ' := by
  rcases ink_of_mem_collapse h with h | h
  · exact Or.inl h.1
  · exact Or.inr h

theorem collapse_blanks_append {b : Text} (hb : ∀ c ∈ b, isBlank c = true) (t : Text) :
    collapse (b ++ t) = collapse t := by
  rw [collapse, words_blanks_append hb, collapse]

theorem collapse_append_blanks {b : Text} (hb : ∀ c ∈ b, isBlank c = true) (t : Text) :
    collapse (t ++ b) = collapse t := by
  rw [collapse, words_append_blanks hb, collapse]

end Text

end HeaderBindings
