import HeaderBindings.Proofs.Artifact.Extracted
import HeaderBindings.Proofs.Parameter.Blanks

/-!
# Blanks around stars

Two texts are spelled alike up to the blanks around stars if packing makes them equal
(`Text.packStars`).  Of a declarator that is no callback these blanks do not matter.  Of a
callback they do, in two ways.

* A blank between the opening parenthesis and the star hides the callback.  So the spellings
  of a text are read alike exactly if its packed form has no `(*`.
* Where `(*` is kept together, the last word between it and the closing parenthesis is cut
  off before the stars in it are.  So these spellings are read alike exactly if the name that
  is read in the packed form has no star in it and is not `const`.

Both are `Declarator.param_ofText_spacing_iff`.  Packing takes away one blank at a time, and
`Text.of_packFrom` puts them back: what holds of the packed text holds of the text if each
blank next to a star can be put into its place.
-/

namespace HeaderBindings

namespace Text

/-! ## 1. Packed texts -/

/-- Is a star the first character that is not blank? -/
def startsStar (t : Text) : Bool := (t.dropWhile isBlank).head? = some '*'

/-- Leave out the blanks next to stars, where `afterStar` says that only blanks stand between
    the text and a star in front of it. -/
def packFrom (afterStar : Bool) : Text → Text
  | [] => []
  | c :: t =>
    if isBlank c then
      if afterStar || startsStar t then packFrom afterStar t else c :: packFrom false t
    else c :: packFrom (c = '*') t

/-- The text without the blanks directly before and behind its stars. -/
def packStars (t : Text) : Text := packFrom false t

example : packStars "char * * const  a" = ("char**const  a" : Text) := by decide

theorem exists_star_of_startsStar {t : Text} (h : startsStar t = true) :
    ∃ g b, IsBlankText g ∧ t = g ++ '*' :: b := by
  have hhead : (t.dropWhile isBlank).head? = some '*' := by simpa [startsStar] using h
  obtain ⟨b, hb⟩ := List.head?_eq_some_iff.1 hhead
  refine ⟨t.takeWhile isBlank, b, fun c hc => List.mem_takeWhile_imp hc, ?_⟩
  rw [← hb, List.takeWhile_append_dropWhile]

/-- Only the first character that is not blank counts. -/
theorem startsStar_append {c : Char} (hc : isBlank c = false) (a b b' : Text) :
    startsStar (a ++ c :: b) = startsStar (a ++ c :: b') := by
  induction a with
  | nil => simp [startsStar, hc]
  | cons d a ih =>
    by_cases hd : isBlank d = true
    · simpa [startsStar, hd] using ih
    · simp [startsStar, hd]

theorem startsStar_append_ink {c : Char} (hc : isBlank c = false) (hstar : c ≠ '*') (a b : Text) :
    startsStar (a ++ c :: b) = startsStar a := by
  induction a with
  | nil => simp [startsStar, hc, hstar]
  | cons d a ih =>
    by_cases hd : isBlank d = true
    · simpa [startsStar, hd] using ih
    · simp [startsStar, hd]

theorem startsStar_blank_append {c : Char} (hc : isBlank c = true) (a b : Text) :
    startsStar (a ++ c :: b) = startsStar (a ++ b) := by
  induction a with
  | nil => simp [startsStar, hc]
  | cons d a ih =>
    by_cases hd : isBlank d = true
    · simpa [startsStar, hd] using ih
    · simp [startsStar, hd]

theorem packFrom_star (afterStar : Bool) (t : Text) :
    packFrom afterStar ('*' :: t) = '*' :: packFrom true t := rfl

/-- Packing in parts, cut at a character that is neither blank nor a star. -/
theorem packFrom_append {c : Char} (hc : isBlank c = false) (hstar : c ≠ '*') (afterStar : Bool)
    (a b : Text) :
    packFrom afterStar (a ++ c :: b) = packFrom afterStar a ++ c :: packFrom false b := by
  induction a generalizing afterStar with
  | nil => simp [packFrom, hc, hstar]
  | cons d a ih =>
    rw [List.cons_append, packFrom, packFrom, startsStar_append_ink hc hstar]
    split
    · split
      · exact ih afterStar
      · rw [ih, List.cons_append]
    · rw [ih, List.cons_append]

theorem packFrom_sublist (afterStar : Bool) (t : Text) : (packFrom afterStar t).Sublist t := by
  induction t generalizing afterStar with
  | nil => exact List.Sublist.refl []
  | cons c t ih =>
    unfold packFrom
    split
    · split
      · exact (ih afterStar).cons c
      · exact (ih false).cons_cons c
    · exact (ih _).cons_cons c

/-! ## 2. One blank at a time -/

/-- A blank in front of a star is left out. -/
theorem packFrom_blank_before {c : Char} (hc : isBlank c = true) {g : Text} (hg : IsBlankText g)
    (afterStar : Bool) (a b : Text) :
    packFrom afterStar (a ++ c :: (g ++ '*' :: b)) = packFrom afterStar (a ++ (g ++ '*' :: b)) := by
  induction a generalizing afterStar with
  | nil =>
    have hstar : startsStar (g ++ '*' :: b) = true := by
      have hdrop : (g ++ '*' :: b).dropWhile isBlank = '*' :: b := by
        rw [List.dropWhile_append_of_pos hg]
        rfl
      rw [startsStar, hdrop]
      rfl
    rw [List.nil_append, List.nil_append, packFrom, if_pos hc, hstar, Bool.or_true, if_pos rfl]
  | cons d a ih =>
    rw [List.cons_append, List.cons_append, packFrom, packFrom, startsStar_blank_append hc, ih, ih,
      ih]

/-- A blank behind a star is left out. -/
theorem packFrom_blank_behind {c : Char} (hc : isBlank c = true) (afterStar : Bool) (a b : Text) :
    packFrom afterStar (a ++ '*' :: c :: b) = packFrom afterStar (a ++ '*' :: b) := by
  induction a generalizing afterStar with
  | nil =>
    rw [List.nil_append, List.nil_append, packFrom_star, packFrom_star, packFrom, if_pos hc]
    rfl
  | cons d a ih =>
    rw [List.cons_append, List.cons_append, packFrom, packFrom,
      startsStar_append (by decide) a (c :: b) b, ih, ih, ih]

/-- What stands in front decides whether a blank at the beginning counts as one behind a
    star. -/
theorem of_packFrom_append {P : Text → Prop}
    (before : ∀ a c g b, isBlank c = true → IsBlankText g →
      P (a ++ (g ++ '*' :: b)) → P (a ++ c :: (g ++ '*' :: b)))
    (behind : ∀ a c b, isBlank c = true → P (a ++ '*' :: b) → P (a ++ '*' :: c :: b))
    {start : Bool} (lead : start = true → ∀ c b, isBlank c = true → P b → P (c :: b))
    {u t : Text} {afterStar : Bool}
    (hu : afterStar = true → (u = [] ∧ start = true) ∨ ∃ a, u = a ++ ['*'])
    (h : P (u ++ packFrom afterStar t)) : P (u ++ t) := by
  induction t generalizing u afterStar with
  | nil => exact h
  | cons c t ih =>
    have hsplit : ∀ x, u ++ c :: x = (u ++ [c]) ++ x := by simp
    unfold packFrom at h
    by_cases hc : isBlank c = true
    · rw [if_pos hc] at h
      by_cases hnext : (afterStar || startsStar t) = true
      · rw [if_pos hnext] at h
        have hrest := ih hu h
        rcases Bool.or_eq_true_iff.1 hnext with hafter | hstar
        · rcases hu hafter with ⟨rfl, hstart⟩ | ⟨a, rfl⟩
          · exact lead hstart c t hc hrest
          · rw [List.append_assoc] at hrest ⊢
            exact behind a c t hc hrest
        · obtain ⟨g, b, hg, rfl⟩ := exists_star_of_startsStar hstar
          exact before u c g b hc hg hrest
      · rw [if_neg hnext, hsplit] at h
        rw [hsplit]
        exact ih (by nofun) h
    · rw [if_neg hc, hsplit] at h
      rw [hsplit]
      refine ih (fun hstar => Or.inr ⟨u, ?_⟩) h
      rw [of_decide_eq_true hstar]

/-- **Blanks are put back one by one.**  What holds of a packed text holds of the text, if it
    still holds when a blank is put into the gap in front of a star, behind a star and, where
    the text stands behind a star itself, at its beginning. -/
theorem of_packFrom {P : Text → Prop}
    (before : ∀ a c g b, isBlank c = true → IsBlankText g →
      P (a ++ (g ++ '*' :: b)) → P (a ++ c :: (g ++ '*' :: b)))
    (behind : ∀ a c b, isBlank c = true → P (a ++ '*' :: b) → P (a ++ '*' :: c :: b))
    {afterStar : Bool} (lead : afterStar = true → ∀ c b, isBlank c = true → P b → P (c :: b))
    {t : Text} (h : P (packFrom afterStar t)) : P t :=
  of_packFrom_append before behind lead (u := []) (fun hstart => Or.inl ⟨rfl, hstart⟩) h

theorem packStars_packStars (t : Text) : packStars (packStars t) = packStars t := by
  have h : packStars t = packStars (packStars t) := by
    refine of_packFrom (P := fun s => packStars s = packStars (packStars t)) ?_ ?_
      (fun hstart => absurd hstart Bool.false_ne_true) rfl
    · intro a c g b hc hg h
      exact (packFrom_blank_before hc hg false a b).trans h
    · intro a c b hc h
      exact (packFrom_blank_behind hc false a b).trans h
  exact h.symm

/-! ## 3. Spread texts -/

/-- The text with a blank on either side of every star. -/
def spreadStars (t : Text) : Text := t.flatMap fun c => if c = '*' then [' ', '*', ' '] else [c]

theorem spreadStars_star (t : Text) : spreadStars ('*' :: t) = ' ' :: '*' :: ' ' :: spreadStars t :=
  rfl

theorem spreadStars_cons {c : Char} (hc : c ≠ '*') (t : Text) :
    spreadStars (c :: t) = c :: spreadStars t := by
  rw [spreadStars, List.flatMap_cons, if_neg hc]
  rfl

theorem packStars_append_spreadStars (a t : Text) :
    packStars (a ++ spreadStars t) = packStars (a ++ t) := by
  have hspace : isBlank ' ' = true := by decide
  induction t generalizing a with
  | nil => rfl
  | cons c t ih =>
    by_cases hc : c = '*'
    · subst hc
      calc packStars (a ++ ' ' :: '*' :: ' ' :: spreadStars t)
          = packStars (a ++ '*' :: ' ' :: spreadStars t) :=
            packFrom_blank_before hspace (g := []) (by decide) false a _
        _ = packStars (a ++ '*' :: spreadStars t) := packFrom_blank_behind hspace false a _
        _ = packStars ((a ++ ['*']) ++ spreadStars t) := by rw [List.append_cons]
        _ = packStars (a ++ '*' :: t) := by rw [ih, ← List.append_cons]
    · rw [spreadStars_cons hc, List.append_cons, ih, ← List.append_cons]

theorem packStars_spreadStars (t : Text) : packStars (spreadStars t) = packStars t :=
  packStars_append_spreadStars [] t

end Text

/-- No star of a spread text follows a parenthesis. -/
theorem not_callbackMark_isInfix_spreadStars (t : Text) :
    ¬ callbackMark <:+: Text.spreadStars t := by
  have hspread : ¬ callbackMark <:+: Text.spreadStars t ∧
      (Text.spreadStars t).head? ≠ some '*' := by
    induction t with
    | nil => exact ⟨by decide, by decide⟩
    | cons c t ih =>
      obtain ⟨hmark, hhead⟩ := ih
      by_cases hc : c = '*'
      · subst hc
        rw [Text.spreadStars_star]
        simp [callbackMark, List.infix_cons_iff, List.cons_prefix_cons] at hmark ⊢
        exact hmark
      · rw [Text.spreadStars_cons hc]
        refine ⟨?_, by simpa using hc⟩
        intro h
        rcases List.infix_cons_iff.1 h with h | h
        · obtain ⟨-, u, hu⟩ := List.cons_prefix_cons.1 h
          rw [← hu] at hhead
          exact hhead rfl
        · exact hmark h
  exact hspread.1

/-! ## 4. Specifiers -/

theorem specifiers_packStars (t : Text) :
    Specifiers.ofText (Text.packStars t) = Specifiers.ofText t := by
  have hstar : ∀ c, isBlank c = true → c ≠ '*' := fun c hc => ne_of_isBlank hc (by decide)
  symm
  refine Text.of_packFrom (P := fun s => Specifiers.ofText s =
    Specifiers.ofText (Text.packStars t)) ?_ ?_
    (fun hstart => absurd hstart Bool.false_ne_true) rfl
  · intro a c g b hc hg h
    rw [← h]
    apply Specifiers.ofText_congr
    · have hgap : IsBlankText (c :: g) := fun d hd => by
        rcases List.mem_cons.1 hd with rfl | hd
        · exact hc
        · exact hg d hd
      rw [← List.cons_append, ← List.append_assoc, ← List.append_assoc, starlessWords_append_star,
        starlessWords_append_star, ignoresBlanks_starlessWords.append_blanks a hgap,
        ignoresBlanks_starlessWords.append_blanks a hg]
    · rw [List.count_append, List.count_append, List.count_cons_of_ne (hstar c hc)]
  · intro a c b hc h
    rw [← h]
    apply Specifiers.ofText_congr
    · rw [starlessWords_append_star, starlessWords_append_star,
        ignoresBlanks_starlessWords.lead c b hc]
    · rw [List.count_append, List.count_append, List.count_cons_self, List.count_cons_self,
        List.count_cons_of_ne (hstar c hc)]

/-! ## 5. Names of callbacks -/

/-- A name that no blank around a star can change. -/
def IsFirmName (name : Text) : Prop := '*' ∉ name ∧ name ≠ constWord

instance (name : Text) : Decidable (IsFirmName name) := by
  unfold IsFirmName
  infer_instance

/-- The last words decide, unless all of them are `const`. -/
theorem nameOfWords_append (ws vs : List Text) :
    nameOfWords (ws ++ vs) =
      if vs.filter (· ≠ constWord) = [] then nameOfWords ws else nameOfWords vs := by
  unfold nameOfWords
  rw [List.filter_append]
  split
  · rename_i hnil
    rw [hnil, List.append_nil]
  · rename_i hne
    obtain ⟨us, w, hw⟩ := (List.eq_nil_or_concat (vs.filter (· ≠ constWord))).resolve_left hne
    rw [hw, List.concat_eq_append, ← List.append_assoc]
    simp [List.getLastD_eq_getLast?]

theorem nameOfWords_singleton {w : Text} (hw : w ≠ constWord) :
    nameOfWords [w] = w.dropWhile (· = '*') := by
  simp [nameOfWords, hw]

theorem nameOfWords_cons_of_last {w : Text} (hw : w ≠ constWord) {vs : List Text}
    (hvs : vs.filter (· ≠ constWord) = []) (ws : List Text) :
    nameOfWords (ws ++ w :: vs) = w.dropWhile (· = '*') := by
  have hlast : (w :: vs).filter (· ≠ constWord) ≠ [] := by
    simp [hw]
  rw [nameOfWords_append, if_neg hlast, ← List.singleton_append, nameOfWords_append, if_pos hvs,
    nameOfWords_singleton hw]

/-- A firm name stays what it is when the word it is read in is cut at a star. -/
theorem nameOfWords_cut {ws vs : List Text} {p q : Text}
    (hstar : p.getLast? = some '*' ∨ q.head? = some '*') {name : Text} (hfirm : IsFirmName name)
    (h : nameOfWords (ws ++ (p ++ q) :: vs) = name) : nameOfWords (ws ++ p :: q :: vs) = name := by
  obtain ⟨hname, hconst⟩ := hfirm
  have hmem : '*' ∈ p ++ q := by
    rcases hstar with hp | hq
    · exact List.mem_append_left _ (List.mem_of_getLast? hp)
    · exact List.mem_append_right _ (List.mem_of_head? hq)
  have hpq : p ++ q ≠ constWord := by
    intro heq
    rw [heq] at hmem
    revert hmem
    decide
  by_cases hvs : vs.filter (· ≠ constWord) = []
  · rw [nameOfWords_cons_of_last hpq hvs, List.dropWhile_append] at h
    -- the first part has stars only, since otherwise a star would be left in the name
    have hdrop : p.dropWhile (· = '*') = [] := by
      by_contra hne
      rw [if_neg (by simpa using hne)] at h
      apply hname
      rw [← h]
      rcases hstar with hp | hq
      · apply List.mem_append_left
        obtain ⟨a, ha⟩ := List.dropWhile_suffix (fun c => decide (c = '*')) (l := p)
        rw [← ha, List.getLast?_append_of_ne_nil _ hne] at hp
        exact List.mem_of_getLast? hp
      · exact List.mem_append_right _ (List.mem_of_head? hq)
    rw [hdrop, if_pos (by rfl)] at h
    have hq : q ≠ constWord := by
      rintro rfl
      exact hconst h.symm
    rw [List.append_cons, nameOfWords_cons_of_last hq hvs, h]
  · have hlast : ∀ us, nameOfWords (us ++ vs) = nameOfWords vs := by
      intro us
      rw [nameOfWords_append, if_neg hvs]
    rw [List.append_cons, hlast] at h
    rw [List.append_cons, List.append_cons, hlast, h]

theorem nameOfWords_words_append {x y : Text}
    (hstar : x.getLast? = some '*' ∨ y.head? = some '*') {name : Text} (hfirm : IsFirmName name)
    (h : nameOfWords (Text.words (x ++ y)) = name) :
    nameOfWords (Text.words x ++ Text.words y) = name := by
  rcases Text.words_append_cases x y with hwords | ⟨ws, p, q, vs, hx, hy, hxy, hlast, hhead⟩
  · rwa [← hwords]
  · rw [hxy] at h
    rw [hx, hy, List.append_assoc]
    exact nameOfWords_cut (by rwa [hlast, hhead]) hfirm h

/-- **A firm name is read whatever the blanks around stars are.**  The text is what follows
    the star of a callback. -/
theorem nameOfWords_of_packFrom {t : Text}
    (hfirm : IsFirmName (nameOfWords (Text.words (Text.packFrom true t)))) :
    nameOfWords (Text.words t) = nameOfWords (Text.words (Text.packFrom true t)) := by
  refine Text.of_packFrom (P := fun s => nameOfWords (Text.words s) =
    nameOfWords (Text.words (Text.packFrom true t))) ?_ ?_ ?_ rfl
  · intro a c g b hc hg h
    have hapart : ∀ e u, isBlank e = true → IsBlankText u →
        Text.words (a ++ e :: (u ++ '*' :: b)) = Text.words a ++ Text.words ('*' :: b) := by
      intro e u he hu
      rw [Text.words_append_blank he, Text.words_blanks_append hu]
    rw [hapart c g hc hg]
    cases g with
    | nil => exact nameOfWords_words_append (Or.inr rfl) hfirm h
    | cons e g =>
      rwa [List.cons_append, hapart e g (hg e List.mem_cons_self)
        fun d hd => hg d (List.mem_cons_of_mem e hd)] at h
  · intro a c b hc h
    rw [List.append_cons] at h ⊢
    rw [Text.words_append_blank hc]
    exact nameOfWords_words_append (Or.inl List.getLast?_concat) hfirm h
  · intro _ c b hc h
    rwa [Text.words_cons_blank hc]

/-! ## 6. Callbacks -/

/-- The first opening parenthesis that stands in front of a star, blanks aside, touches it. -/
def KeepsMark (t : Text) : Prop :=
  ∃ a rest, t = a ++ callbackMark ++ rest ∧ ¬ callbackMark <:+: Text.packStars a

theorem packStars_append_callbackMark (a rest : Text) :
    Text.packStars (a ++ callbackMark ++ rest) =
      Text.packStars a ++ callbackMark ++ Text.packFrom true rest := by
  have h := Text.packFrom_append (c := '(') (by decide) (by decide) false a ('*' :: rest)
  rw [Text.packFrom_star] at h
  simpa [callbackMark, Text.packStars] using h

/-- Packing moves nothing out of touch. -/
theorem callbackMark_isInfix_packStars {t : Text} (h : callbackMark <:+: t) :
    callbackMark <:+: Text.packStars t := by
  obtain ⟨a, b, rfl⟩ := h
  exact ⟨Text.packStars a, Text.packFrom true b, (packStars_append_callbackMark a b).symm⟩

theorem beforeClosing_packFrom (afterStar : Bool) (t : Text) :
    beforeClosing (Text.packFrom afterStar t) = Text.packFrom afterStar (beforeClosing t) := by
  have hnone : ∀ {u}, ')' ∉ u → ')' ∉ Text.packFrom afterStar u :=
    fun hu hmem => hu ((Text.packFrom_sublist afterStar _).subset hmem)
  by_cases ht : ')' ∈ t
  · obtain ⟨a, b, rfl, ha⟩ := List.eq_append_cons_of_mem ht
    rw [Text.packFrom_append (by decide) (by decide), beforeClosing_append_closing (hnone ha),
      beforeClosing_append_closing ha]
  · rw [beforeClosing_eq_self ht, beforeClosing_eq_self (hnone ht)]

/-- A callback whose mark is kept has its name, and the packed text has the name that is read
    in the packed rest. -/
theorem KeepsMark.exists_names {t : Text} (h : KeepsMark t) : ∃ inner,
    callbackName? t = some (nameOfWords (Text.words inner)) ∧
      callbackName? (Text.packStars t) =
        some (nameOfWords (Text.words (Text.packFrom true inner))) := by
  obtain ⟨a, rest, rfl, ha⟩ := h
  refine ⟨beforeClosing rest, ?_, ?_⟩
  · exact callbackName?_append (fun hmark => ha (callbackMark_isInfix_packStars hmark)) rest
  · rw [packStars_append_callbackMark, callbackName?_append ha, beforeClosing_packFrom]

theorem KeepsMark.callbackName?_packStars {t name : Text} (h : KeepsMark t)
    (hname : callbackName? (Text.packStars t) = some name) (hfirm : IsFirmName name) :
    callbackName? t = some name := by
  obtain ⟨inner, ht, hpacked⟩ := h.exists_names
  rw [hpacked, Option.some.injEq] at hname
  rw [ht, nameOfWords_of_packFrom (hname ▸ hfirm), hname]

/-- In a spread text a star is a word of its own. -/
theorem star_cases_of_mem_words {u : Text} (hu : '*' ∉ u) {t w : Text}
    (h : w ∈ Text.words (u ++ Text.spreadStars t)) : '*' ∉ w ∨ w = ['*'] := by
  induction t generalizing u with
  | nil =>
    left
    intro hmem
    apply hu
    simpa [Text.spreadStars] using Text.mem_of_mem_words h hmem
  | cons c t ih =>
    by_cases hc : c = '*'
    · subst hc
      have hstar : Text.words ('*' :: ' ' :: Text.spreadStars t) =
          ['*'] :: Text.words (Text.spreadStars t) :=
        (Text.words_append_blank (by decide) ['*'] _).trans rfl
      rw [Text.spreadStars_star, Text.words_append_blank (by decide), hstar, List.mem_append,
        List.mem_cons] at h
      rcases h with h | h | h
      · exact Or.inl fun hmem => hu (Text.mem_of_mem_words h hmem)
      · exact Or.inr h
      · exact ih (u := []) List.not_mem_nil h
    · rw [Text.spreadStars_cons hc, List.append_cons] at h
      refine ih ?_ h
      rw [List.mem_append, List.mem_singleton, not_or]
      exact ⟨hu, Ne.symm hc⟩

theorem isFirmName_nameOfWords {ws : List Text} (h : ∀ w ∈ ws, '*' ∉ w ∨ w = ['*']) :
    IsFirmName (nameOfWords ws) := by
  unfold nameOfWords
  rcases List.eq_nil_or_concat (ws.filter (· ≠ constWord)) with hnil | ⟨vs, w, hlast⟩
  · rw [hnil]
    decide
  · have hw : w ∈ ws.filter (· ≠ constWord) := by
      rw [hlast]
      simp
    obtain ⟨hmem, hconst⟩ := List.mem_filter.1 hw
    rw [hlast, List.concat_eq_append, List.getLastD_eq_getLast?, List.getLast?_concat,
      Option.getD_some]
    rcases h w hmem with hstar | rfl
    · have hdrop : w.dropWhile (· = '*') = w := by
        rw [List.dropWhile_eq_self_iff]
        intro hpos
        rw [decide_eq_true_iff]
        intro heq
        exact hstar (heq ▸ List.getElem_mem hpos)
      rw [hdrop]
      exact ⟨hstar, by simpa using hconst⟩
    · decide

theorem beforeClosing_spreadStars (t : Text) :
    beforeClosing (Text.spreadStars t) = Text.spreadStars (beforeClosing t) := by
  induction t with
  | nil => rfl
  | cons c t ih =>
    by_cases hc : c = '*'
    · subst hc
      rw [Text.spreadStars_star, beforeClosing_cons (by decide), beforeClosing_cons (by decide),
        beforeClosing_cons (by decide), beforeClosing_cons (by decide), ih, Text.spreadStars_star]
    · rw [Text.spreadStars_cons hc]
      by_cases hclosing : c = ')'
      · subst hclosing
        rfl
      · rw [beforeClosing_cons hclosing, beforeClosing_cons hclosing, Text.spreadStars_cons hc, ih]

/-- What stands in front of a callback mark in a packed text is packed. -/
theorem packStars_of_append_callbackMark {a rest : Text}
    (h : Text.packStars (a ++ callbackMark ++ rest) = a ++ callbackMark ++ rest) :
    Text.packStars a = a := by
  have hfront := Text.packFrom_sublist false a
  have hrest := (Text.packFrom_sublist true rest).length_le
  have hlength := congrArg List.length h
  rw [packStars_append_callbackMark] at hlength
  simp only [List.length_append] at hlength
  refine hfront.eq_of_length_le ?_
  have hsame : (Text.packStars a).length = (Text.packFrom false a).length := rfl
  omega

/-- Every packed callback has a spelling that keeps the mark and has a firm name. -/
theorem exists_firm_spelling {t name : Text}
    (h : callbackName? (Text.packStars t) = some name) :
    ∃ s other, Text.packStars s = Text.packStars t ∧ KeepsMark s ∧
      callbackName? s = some other ∧ IsFirmName other := by
  rcases callbackName?_cases (Text.packStars t) with ⟨-, hnone⟩ | ⟨a, rest, hpacked, ha, -⟩
  · rw [hnone] at h
    cases h
  · have hpack := Text.packStars_packStars t
    rw [hpacked] at hpack
    refine ⟨a ++ callbackMark ++ Text.spreadStars rest, _, ?_, ⟨a, _, rfl, ?_⟩,
      callbackName?_append ha _, ?_⟩
    · rw [Text.packStars_append_spreadStars, hpack, hpacked]
    · rwa [packStars_of_append_callbackMark hpack]
    · rw [beforeClosing_spreadStars]
      exact isFirmName_nameOfWords fun w hw =>
        star_cases_of_mem_words (u := []) List.not_mem_nil hw

theorem isFirmName_positionalName (index : Nat) : IsFirmName (positionalName index) := by
  constructor
  · intro hmem
    exact absurd (isIdent_of_mem_positionalName hmem) (by decide)
  · intro heq
    exact absurd (congrArg List.head? heq) (by simp [positionalName, constWord])

namespace Declarator

variable {opaques : OpaqueTypes} {index : Nat}

theorem ofText_of_packStars_eq {s t : Text} (hpacked : Text.packStars s = Text.packStars t)
    (hmark : ¬ callbackMark <:+: Text.packStars t) :
    ofText opaques index s = ofText opaques index t := by
  have hnone : ∀ {u}, Text.packStars u = Text.packStars t → callbackName? u = none := by
    intro u hu
    rw [callbackName?_eq_none_iff]
    intro hin
    exact hmark (hu ▸ callbackMark_isInfix_packStars hin)
  refine ofText_congr ((hnone hpacked).trans (hnone rfl).symm) ?_
  rw [← specifiers_packStars s, hpacked, specifiers_packStars]

/-- A callback is recorded as a pointer to `void` and passed as an integer, which no other
    parameter is. -/
theorem param_callback_ne_param_plain (name other : Text) (type : CType) :
    (callback name).param opaques ≠ (plain other type).param opaques := by
  intro h
  have hctype : ⟨"void", 1, false⟩ = type := congrArg Param.cType h
  have htype : SignatureType.machineWord = TypeMapping.map opaques type := congrArg Param.type h
  rw [← hctype] at htype
  cases htype

/-- **Which blanks around stars matter.**  All spellings of a text are read as one parameter
    exactly if its packed form has no callback mark.  Those that keep the mark together are
    read as one parameter exactly if the name in the packed form has no star and is not
    `const`. -/
theorem param_ofText_spacing_iff (opaques : OpaqueTypes) (index : Nat) (t : Text) :
    ((∀ s, Text.packStars s = Text.packStars t →
        (ofText opaques index s).param opaques = (ofText opaques index t).param opaques) ↔
      ¬ callbackMark <:+: Text.packStars t) ∧
    ((∀ s, Text.packStars s = Text.packStars t → KeepsMark s →
        (ofText opaques index s).param opaques =
          (ofText opaques index (Text.packStars t)).param opaques) ↔
      ∀ name, callbackName? (Text.packStars t) = some name → '*' ∉ name ∧ name ≠ constWord) := by
  refine ⟨⟨?_, ?_⟩, ⟨?_, ?_⟩⟩
  · -- the packed text is a callback, and the spread text is none
    intro hall hmark
    have hspread := callbackName?_eq_none_iff.2 (not_callbackMark_isInfix_spreadStars t)
    cases hpacked : callbackName? (Text.packStars t) with
    | none => exact callbackName?_eq_none_iff.1 hpacked hmark
    | some name =>
      have hsame := (hall _ (Text.packStars_packStars t)).trans
        (hall _ (Text.packStars_spreadStars t)).symm
      rw [ofText_of_callback hpacked, ofText_of_plain hspread] at hsame
      exact param_callback_ne_param_plain _ _ _ hsame
  · intro hmark s hs
    rw [ofText_of_packStars_eq hs hmark]
  · intro hall name hname
    obtain ⟨s, other, hs, hkeeps, hother, hfirm⟩ := exists_firm_spelling hname
    have hsame := congrArg Param.name (hall s hs hkeeps)
    rw [ofText_of_callback hother, ofText_of_callback hname] at hsame
    by_cases hnil : name = []
    · rw [hnil]
      decide
    · have hsame : (if other = [] then positionalName index else other) = name := by
        simpa [param, hnil] using hsame
      rw [← hsame]
      split
      · exact isFirmName_positionalName index
      · exact hfirm
  · intro hfirm s hs hkeeps
    obtain ⟨inner, -, hpacked⟩ := hkeeps.exists_names
    rw [hs] at hpacked
    have hname := hkeeps.callbackName?_packStars (hs ▸ hpacked) (hfirm _ hpacked)
    rw [ofText_of_callback hpacked, ofText_of_callback hname]

/-- A blank inside `(*` makes a plain parameter of a callback. -/
theorem not_forall_param_ofText_spacing : ¬ ∀ (opaques : OpaqueTypes) (index : Nat) (s t : Text),
    Text.packStars s = Text.packStars t →
      (ofText opaques index s).param opaques = (ofText opaques index t).param opaques := by
  intro h
  exact absurd (h OpaqueTypes.empty 0 "void ( *cb)(int)" "void (*cb)(int)" (by decide)) (by decide)

-- A star that touches a qualifier stays in the name.
example : ofText OpaqueTypes.empty 0 "int (*const*cb)(void)" = .callback "const*cb" ∧
    ofText OpaqueTypes.empty 0 "int (*const *cb)(void)" = .callback "cb" := by decide

end Declarator

end HeaderBindings
