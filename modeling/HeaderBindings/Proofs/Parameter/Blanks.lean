import HeaderBindings.Proofs.CType
import HeaderBindings.Proofs.Parameter.Segments
import HeaderBindings.Proofs.Text.Cutting

/-!
# Blanks in parameter lists

A parameter list is collapsed before it is cut, and every segment is trimmed before it is
read.  Neither has an effect: what is read of a declarator ignores the blanks at its ends and
how many blanks a run has (`IgnoresBlanks`), and a list may as well be cut first and collapsed
segment by segment (`declarators_eq`).
-/

namespace HeaderBindings

/-! ## 1. What ignores blanks -/

/-- What is computed of a text depends neither on the blanks at its ends nor on the length
    of its runs of blanks. -/
structure IgnoresBlanks {β : Type} (F : Text → β) : Prop where
  lead : ∀ c t, isBlank c = true → F (c :: t) = F t
  trail : ∀ c t, isBlank c = true → F (t ++ [c]) = F t
  squeeze : ∀ t, F (Text.squeeze t) = F t

namespace Text

theorem dropWhile_eq_self_of_startsBlank {t : Text} (h : startsBlank t = false) :
    t.dropWhile isBlank = t := by
  cases t with
  | nil => rfl
  | cons c t =>
    have hc : ¬ isBlank c = true := by simpa [startsBlank] using h
    exact List.dropWhile_cons_of_neg hc

/-- A text is what trimming leaves, between blanks. -/
theorem exists_trim (t : Text) : ∃ a b, IsBlankText a ∧ IsBlankText b ∧ t = a ++ trim t ++ b ∧
    startsBlank (trim t) = false ∧ endsBlank (trim t) = false := by
  have hsplit : t.takeWhile isBlank ++ trimStart t = t := List.takeWhile_append_dropWhile
  have hends : trim t ++ ((trimStart t).reverse.takeWhile isBlank).reverse = trimStart t := by
    rw [trim, trimEnd, ← List.reverse_append, List.takeWhile_append_dropWhile,
      List.reverse_reverse]
  refine ⟨t.takeWhile isBlank, ((trimStart t).reverse.takeWhile isBlank).reverse, ?_, ?_, ?_, ?_,
    ?_⟩
  · intro c hc
    exact List.mem_takeWhile_imp hc
  · intro c hc
    exact List.mem_takeWhile_imp (List.mem_reverse.1 hc)
  · rw [List.append_assoc, hends, hsplit]
  · have hstart : startsBlank (trimStart t) = false := any_head?_dropWhile isBlank t
    cases htrim : trim t with
    | nil => rfl
    | cons c u =>
      rw [← hends, htrim] at hstart
      exact hstart
  · rw [endsBlank, trim, trimEnd, List.getLast?_reverse]
    exact any_head?_dropWhile isBlank _

end Text

namespace IgnoresBlanks

variable {β : Type} {F : Text → β} (h : IgnoresBlanks F)
include h

theorem blanks_append {b : Text} (hb : IsBlankText b) (t : Text) : F (b ++ t) = F t := by
  induction b with
  | nil => rfl
  | cons c b ih =>
    rw [List.cons_append, h.lead c _ (hb c List.mem_cons_self),
      ih fun d hd => hb d (List.mem_cons_of_mem _ hd)]

theorem append_blanks (t : Text) {b : Text} (hb : IsBlankText b) : F (t ++ b) = F t := by
  induction b generalizing t with
  | nil => rw [List.append_nil]
  | cons c b ih =>
    have hsplit : t ++ c :: b = (t ++ [c]) ++ b := by simp
    rw [hsplit, ih (t ++ [c]) fun d hd => hb d (List.mem_cons_of_mem _ hd),
      h.trail c t (hb c List.mem_cons_self)]

/-- What is determined by something that ignores blanks ignores them too. -/
theorem determines {γ : Type} {G : Text → γ} (hG : ∀ s t, F s = F t → G s = G t) :
    IgnoresBlanks G where
  lead c t hc := hG _ _ (h.lead c t hc)
  trail c t hc := hG _ _ (h.trail c t hc)
  squeeze t := hG _ _ (h.squeeze t)

theorem prodMk {γ : Type} {G : Text → γ} (hG : IgnoresBlanks G) :
    IgnoresBlanks fun t => (F t, G t) where
  lead c t hc := Prod.ext (h.lead c t hc) (hG.lead c t hc)
  trail c t hc := Prod.ext (h.trail c t hc) (hG.trail c t hc)
  squeeze t := Prod.ext (h.squeeze t) (hG.squeeze t)

theorem trim (t : Text) : F (Text.trim t) = F t := by
  obtain ⟨a, b, ha, hb, ht, -, -⟩ := Text.exists_trim t
  calc F (Text.trim t) = F (a ++ (Text.trim t ++ b)) := by
        rw [h.blanks_append ha, h.append_blanks _ hb]
    _ = F t := by rw [← List.append_assoc, ← ht]

theorem collapse (t : Text) : F (Text.collapse t) = F t := by
  obtain ⟨-, -, -, -, -, hstart, hend⟩ := Text.exists_trim t
  have hcollapse : Text.collapse t = Text.squeeze (Text.trim t) := by
    rw [← Text.dropWhile_eq_self_of_startsBlank hstart, ← Text.collapse_eq_squeeze hend,
      Text.collapse, Text.collapse, Text.words_trim]
  rw [hcollapse, h.squeeze, h.trim]

end IgnoresBlanks

theorem ignoresBlanks_words : IgnoresBlanks Text.words where
  lead _ t hc := Text.words_cons_blank hc t
  trail c t hc := by rw [Text.words_append_blank hc, Text.words, List.append_nil]
  squeeze t := by
    have h := Text.words_map_squeeze (f := id) (fun _ hc => hc) t
    rwa [List.map_id, List.map_id] at h

namespace Text

theorem exists_prefix_of_words_append {x : Text} (hne : x ≠ [])
    (hx : ∀ c ∈ x, isBlank c = false) (t : Text) :
    ∃ w ws, words (x ++ t) = w :: ws ∧ x <+: w := by
  induction x with
  | nil => exact absurd rfl hne
  | cons c x ih =>
    have hc := hx c List.mem_cons_self
    have hrest := fun d hd => hx d (List.mem_cons_of_mem c hd)
    rw [List.cons_append, words_cons_ink hc]
    cases x with
    | nil =>
      cases words ([] ++ t) with
      | nil => exact ⟨[c], [], rfl, List.prefix_refl _⟩
      | cons v vs => cases startsWord ([] ++ t) <;> exact ⟨_, _, rfl, by simp⟩
    | cons d x =>
      have hstart : startsWord (d :: x ++ t) = true := by
        simpa [startsWord] using hrest d List.mem_cons_self
      obtain ⟨w, ws, hw, hxw⟩ := ih (List.cons_ne_nil d x) hrest
      rw [hw, hstart]
      exact ⟨c :: w, ws, rfl, List.cons_prefix_cons.2 ⟨rfl, hxw⟩⟩

/-- What has no blanks stands inside a word. -/
theorem isInfix_iff_exists_word {x : Text} (hx : IsInk x) {t : Text} :
    x <:+: t ↔ ∃ w ∈ words t, x <:+: w := by
  constructor
  · induction t with
    | nil => exact fun h => absurd (List.infix_nil.1 h) hx.1
    | cons c t ih =>
      intro h
      rcases List.infix_cons_iff.1 h with ⟨u, hu⟩ | h
      · obtain ⟨w, ws, hw, hxw⟩ := exists_prefix_of_words_append hx.1 hx.2 u
        rw [← hu, hw]
        exact ⟨w, List.mem_cons_self, hxw.isInfix⟩
      · obtain ⟨w, hw, hin⟩ := ih h
        by_cases hc : isBlank c = true
        · rw [words_cons_blank hc]
          exact ⟨w, hw, hin⟩
        · -- the character may be glued to the word
          rw [words_cons_ink (by simpa using hc)]
          obtain ⟨v, vs, hwords⟩ := List.exists_cons_of_ne_nil (List.ne_nil_of_mem hw)
          rw [hwords] at hw ⊢
          cases startsWord t with
          | false => exact ⟨w, List.mem_cons_of_mem _ hw, hin⟩
          | true =>
            rcases List.mem_cons.1 hw with rfl | hw
            · exact ⟨c :: w, List.mem_cons_self, hin.trans (List.suffix_cons c w).isInfix⟩
            · exact ⟨w, List.mem_cons_of_mem _ hw, hin⟩
  · rintro ⟨w, hw, hin⟩
    exact hin.trans (isInfix_of_mem_words hw)

end Text

theorem ignoresBlanks_isInfix {x : Text} (hx : Text.IsInk x) :
    IgnoresBlanks fun t => x <:+: t :=
  ignoresBlanks_words.determines fun s t hwords => by
    rw [Text.isInfix_iff_exists_word hx, Text.isInfix_iff_exists_word hx, hwords]

theorem ignoresBlanks_count {c : Char} (hc : isBlank c = false) :
    IgnoresBlanks fun t => t.count c where
  lead _ _ hd := List.count_cons_of_ne (ne_of_isBlank hd hc)
  trail d t hd := by
    rw [List.count_append, List.count_singleton, if_neg (by simpa using ne_of_isBlank hd hc),
      Nat.add_zero]
  squeeze _ := Text.count_squeeze hc _

/-! ## 2. Declarators -/

theorem ignoresBlanks_starlessWords : IgnoresBlanks starlessWords where
  lead c t hc := starlessWords_append_blank hc [] t
  trail c t hc := by
    have hnil : starlessWords [] = [] := rfl
    rw [starlessWords_append_blank hc, hnil, List.append_nil]
  squeeze t := by
    apply Text.words_map_squeeze
    intro c hc
    rwa [if_neg (ne_of_isBlank hc (by decide : isBlank '*' = false))]

theorem ignoresBlanks_specifiers : IgnoresBlanks Specifiers.ofText :=
  (ignoresBlanks_starlessWords.prodMk (ignoresBlanks_count (by decide : isBlank '*' = false)))
    |>.determines fun _ _ h => Specifiers.ofText_congr (Prod.ext_iff.1 h).1 (Prod.ext_iff.1 h).2

/-- The opening of a declarator that is a callback. -/
def callbackMark : Text := ['(', '*']

/-- The name among the words of a callback's own declarator: the last one that is not
    `const`, without the stars it begins with. -/
def nameOfWords (ws : List Text) : Text :=
  ((ws.filter (· ≠ constWord)).getLastD []).dropWhile (· = '*')

/-- The text up to the first closing parenthesis. -/
def beforeClosing (t : Text) : Text := t.takeWhile (· ≠ ')')

theorem callbackName?_eq_none_iff {t : Text} : callbackName? t = none ↔ ¬ callbackMark <:+: t := by
  rw [callbackName?, Option.map_eq_none_iff]
  exact Text.after?_eq_none_iff

theorem callbackName?_append {a : Text} (ha : ¬ callbackMark <:+: a) (rest : Text) :
    callbackName? (a ++ callbackMark ++ rest) =
      some (nameOfWords (Text.words (beforeClosing rest))) := by
  have hafter : Text.after? callbackMark (a ++ callbackMark ++ rest) = some rest :=
    (Text.after?_pair_eq_some_iff (by decide)).2 ⟨a, by simp [callbackMark], ha⟩
  exact congrArg (Option.map _) hafter

theorem callbackName?_cases (t : Text) :
    (¬ callbackMark <:+: t ∧ callbackName? t = none) ∨
      ∃ a rest, t = a ++ callbackMark ++ rest ∧ ¬ callbackMark <:+: a ∧
        callbackName? t = some (nameOfWords (Text.words (beforeClosing rest))) := by
  by_cases hmark : callbackMark <:+: t
  · right
    cases hafter : Text.after? callbackMark t with
    | none => exact absurd hmark (Text.after?_eq_none_iff.1 hafter)
    | some rest =>
      obtain ⟨a, ht, ha⟩ := (Text.after?_pair_eq_some_iff (by decide)).1 hafter
      obtain rfl : t = a ++ callbackMark ++ rest := by simpa [callbackMark] using ht
      exact ⟨a, rest, rfl, ha, callbackName?_append ha rest⟩
  · exact Or.inl ⟨hmark, callbackName?_eq_none_iff.2 hmark⟩

theorem beforeClosing_cons {c : Char} (hc : c ≠ ')') (t : Text) :
    beforeClosing (c :: t) = c :: beforeClosing t := by
  rw [beforeClosing, List.takeWhile_cons_of_pos (by simpa using hc)]
  rfl

theorem beforeClosing_append_closing {t : Text} (h : ')' ∉ t) (rest : Text) :
    beforeClosing (t ++ ')' :: rest) = t := by
  unfold beforeClosing
  rw [List.takeWhile_append_of_pos, List.takeWhile_cons_of_neg (by simp), List.append_nil]
  intro c hc
  rw [decide_eq_true_iff]
  rintro rfl
  exact h hc

theorem beforeClosing_eq_self {t : Text} (h : ')' ∉ t) : beforeClosing t = t := by
  rw [beforeClosing, List.takeWhile_eq_self_iff]
  intro c hc
  rw [decide_eq_true_iff]
  rintro rfl
  exact h hc

/-- What ignores blanks does so too when it looks at the text up to a closing parenthesis. -/
theorem IgnoresBlanks.beforeClosing {β : Type} {F : Text → β} (h : IgnoresBlanks F) :
    IgnoresBlanks fun t => F (beforeClosing t) := by
  have hclosing : ∀ c, isBlank c = true → c ≠ ')' := fun c hc => ne_of_isBlank hc (by decide)
  have hcut : ∀ t, (∃ a b, t = a ++ ')' :: b ∧ ')' ∉ a) ∨ ')' ∉ t := by
    intro t
    by_cases ht : ')' ∈ t
    · obtain ⟨a, b, hab, ha⟩ := List.eq_append_cons_of_mem ht
      exact Or.inl ⟨a, b, hab, ha⟩
    · exact Or.inr ht
  constructor
  · intro c t hc
    rw [beforeClosing_cons (hclosing c hc), h.lead c _ hc]
  · intro c t hc
    rcases hcut t with ⟨a, b, rfl, ha⟩ | ht
    · rw [List.append_assoc, List.cons_append, beforeClosing_append_closing ha,
        beforeClosing_append_closing ha]
    · have hnone : ')' ∉ t ++ [c] := by
        rw [List.mem_append, List.mem_singleton, not_or]
        exact ⟨ht, (hclosing c hc).symm⟩
      rw [beforeClosing_eq_self ht, beforeClosing_eq_self hnone, h.trail c t hc]
  · intro t
    have hnone : ∀ u, ')' ∉ u → ')' ∉ Text.squeeze u := by
      intro u hu hmem
      rcases Text.mem_of_mem_squeeze hmem with hmem | heq
      · exact hu hmem
      · revert heq
        decide
    rcases hcut t with ⟨a, b, rfl, ha⟩ | ht
    · have hstart : Text.startsBlank (')' :: b) = false := by
        simpa [Text.startsBlank] using (by decide : isBlank ')' = false)
      rw [Text.squeeze_append (Or.inr hstart), Text.squeeze_cons_ink (by decide),
        beforeClosing_append_closing (hnone a ha), beforeClosing_append_closing ha, h.squeeze]
    · rw [beforeClosing_eq_self ht, beforeClosing_eq_self (hnone t ht), h.squeeze]

theorem isInk_callbackMark : Text.IsInk callbackMark := ⟨by decide, by decide⟩

theorem ignoresBlanks_callbackName? : IgnoresBlanks callbackName? := by
  have hmarked := ignoresBlanks_isInfix isInk_callbackMark
  have hinner := ignoresBlanks_words.beforeClosing
  constructor
  · intro c t hc
    rcases callbackName?_cases t with ⟨hmark, hnone⟩ | ⟨a, rest, rfl, ha, hname⟩
    · rw [hnone, callbackName?_eq_none_iff, hmarked.lead c t hc]
      exact hmark
    · have hmark : ¬ callbackMark <:+: c :: a := by rwa [hmarked.lead c a hc]
      rw [hname]
      exact callbackName?_append hmark rest
  · intro c t hc
    rcases callbackName?_cases t with ⟨hmark, hnone⟩ | ⟨a, rest, rfl, ha, hname⟩
    · rw [hnone, callbackName?_eq_none_iff, hmarked.trail c t hc]
      exact hmark
    · rw [hname, List.append_assoc, callbackName?_append ha, hinner.trail c rest hc]
  · intro t
    rcases callbackName?_cases t with ⟨hmark, hnone⟩ | ⟨a, rest, rfl, ha, hname⟩
    · rw [hnone, callbackName?_eq_none_iff, hmarked.squeeze]
      exact hmark
    · have hmark : ¬ callbackMark <:+: Text.squeeze a := by rwa [hmarked.squeeze]
      have hsplit : Text.squeeze (a ++ callbackMark ++ rest) =
          Text.squeeze a ++ callbackMark ++ Text.squeeze rest := by
        rw [List.append_assoc, Text.squeeze_append (Or.inr (by rfl)),
          Text.squeeze_append (Or.inl (by rfl)), isInk_callbackMark.squeeze_eq, List.append_assoc]
      rw [hname, hsplit, callbackName?_append hmark, hinner.squeeze]

namespace Declarator

variable {opaques : OpaqueTypes} {index : Nat}

theorem ofText_of_callback {t name : Text} (h : callbackName? t = some name) :
    ofText opaques index t = .callback (if name = [] then positionalName index else name) := by
  rw [← ignoresBlanks_callbackName?.trim] at h
  rw [ofText, h]

theorem ofText_of_plain {t : Text} (h : callbackName? t = none) :
    ofText opaques index t =
      .plain (nameAndBase opaques index (Specifiers.ofText t).words).1
        ⟨(nameAndBase opaques index (Specifiers.ofText t).words).2, (Specifiers.ofText t).stars,
          (Specifiers.ofText t).isConst⟩ := by
  rw [← ignoresBlanks_callbackName?.trim] at h
  rw [ofText, h, ignoresBlanks_specifiers.trim]

/-- A declarator is read for its callback name and its specifiers. -/
theorem ofText_congr {s t : Text} (hname : callbackName? s = callbackName? t)
    (hspecifiers : Specifiers.ofText s = Specifiers.ofText t) :
    ofText opaques index s = ofText opaques index t := by
  cases h : callbackName? t with
  | some name => rw [ofText_of_callback h, ofText_of_callback (hname.trans h)]
  | none => rw [ofText_of_plain h, ofText_of_plain (hname.trans h), hspecifiers]

theorem ignoresBlanks_ofText : IgnoresBlanks (ofText opaques index) :=
  (ignoresBlanks_callbackName?.prodMk ignoresBlanks_specifiers).determines fun _ _ h =>
    ofText_congr (Prod.ext_iff.1 h).1 (Prod.ext_iff.1 h).2

end Declarator

/-! ## 3. Segments -/

namespace ParameterList

/-- Blanks neither cut a list nor open or close a parenthesis. -/
theorem segmentsFrom_cons_blank {c : Char} (hc : isBlank c = true) (depth : Nat) (t : Text) :
    segmentsFrom depth (c :: t) = extendFirst c (segmentsFrom depth t) := by
  have hdepth : depthAfter depth c = depth := by
    rw [depthAfter, if_neg (ne_of_isBlank hc (by decide)), if_neg (ne_of_isBlank hc (by decide))]
  rw [segmentsFrom, if_neg fun h => ne_of_isBlank hc (by decide) h.1, hdepth]

theorem map_extendFirst {β : Type} (F : Text → β) {c : Char} (hF : ∀ t, F (c :: t) = F t)
    {ss : List Text} (hne : ss ≠ []) : (extendFirst c ss).map F = ss.map F := by
  obtain ⟨s, ss, rfl⟩ := List.exists_cons_of_ne_nil hne
  rw [extendFirst, List.map_cons, List.map_cons, hF]

/-- A blank behind a list belongs to the last segment. -/
theorem exists_segmentsFrom_concat {c : Char} (hc : isBlank c = true) (depth : Nat) (t : Text) :
    ∃ ss s, segmentsFrom depth t = ss ++ [s] ∧
      segmentsFrom depth (t ++ [c]) = ss ++ [s ++ [c]] := by
  induction t generalizing depth with
  | nil =>
    refine ⟨[], [], rfl, ?_⟩
    rw [List.nil_append, segmentsFrom_cons_blank hc]
    rfl
  | cons d t ih =>
    rw [List.cons_append]
    unfold segmentsFrom
    split
    · obtain ⟨ss, s, hs, hsc⟩ := ih 0
      exact ⟨[] :: ss, s, by rw [hs, List.cons_append], by rw [hsc, List.cons_append]⟩
    · obtain ⟨ss, s, hs, hsc⟩ := ih (depthAfter depth d)
      rw [hs, hsc]
      cases ss with
      | nil => exact ⟨[], d :: s, rfl, rfl⟩
      | cons u us => exact ⟨(d :: u) :: us, s, rfl, rfl⟩

theorem startsBlank_of_segmentsFrom {depth : Nat} {t s : Text} {ss : List Text}
    (h : segmentsFrom depth t = s :: ss) : Text.startsBlank s = Text.startsBlank t := by
  cases t with
  | nil =>
    obtain ⟨rfl, -⟩ := List.cons_eq_cons.1 h
    rfl
  | cons c t =>
    unfold segmentsFrom at h
    split at h
    · rename_i hcomma
      obtain ⟨rfl, -⟩ := List.cons_eq_cons.1 h
      rw [hcomma.1]
      rfl
    · obtain ⟨u, us, hu⟩ := List.exists_cons_of_ne_nil (segmentsFrom_ne_nil (depthAfter depth c) t)
      rw [hu] at h
      obtain ⟨rfl, -⟩ := List.cons_eq_cons.1 h
      rfl

/-- **Squeezing a list** squeezes its segments. -/
theorem segmentsFrom_squeeze (depth : Nat) (t : Text) :
    segmentsFrom depth (Text.squeeze t) = (segmentsFrom depth t).map Text.squeeze := by
  induction t generalizing depth with
  | nil => rfl
  | cons c t ih =>
    by_cases hc : isBlank c = true
    · rw [segmentsFrom_cons_blank hc, Text.squeeze, if_pos hc]
      obtain ⟨s, ss, hs⟩ := List.exists_cons_of_ne_nil (segmentsFrom_ne_nil depth t)
      have hstart := startsBlank_of_segmentsFrom hs
      rw [hs, extendFirst, List.map_cons, Text.squeeze, if_pos hc, hstart]
      split
      · rw [ih, hs, List.map_cons]
      · rw [segmentsFrom_cons_blank (by decide), ih, hs]
        rfl
    · have hc : isBlank c = false := by simpa using hc
      rw [Text.squeeze_cons_ink hc]
      unfold segmentsFrom
      split
      · rw [ih]
        rfl
      · obtain ⟨s, ss, hs⟩ :=
          List.exists_cons_of_ne_nil (segmentsFrom_ne_nil (depthAfter depth c) t)
        rw [ih, hs, extendFirst, List.map_cons, List.map_cons, extendFirst,
          Text.squeeze_cons_ink hc]

/-- What ignores blanks in a text does so in the segments of a list. -/
theorem ignoresBlanks_segments {β : Type} {F : Text → β} (h : IgnoresBlanks F) :
    IgnoresBlanks fun list => (segments list).map F := by
  constructor
  · intro c t hc
    rw [segments, segmentsFrom_cons_blank hc]
    exact map_extendFirst F (fun s => h.lead c s hc) (segmentsFrom_ne_nil 0 t)
  · intro c t hc
    obtain ⟨ss, s, hs, hsc⟩ := exists_segmentsFrom_concat hc 0 t
    rw [segments, segments, hs, hsc, List.map_append, List.map_append, List.map_singleton,
      List.map_singleton, h.trail c s hc]
  · intro t
    rw [segments, segmentsFrom_squeeze, List.map_map]
    exact List.map_congr_left fun s _ => h.squeeze s

theorem mapIdx_congr_of_map {α β : Type} {G : Nat → α → β} {l l' : List α}
    (h : (l.map fun a index => G index a) = l'.map fun a index => G index a) :
    l.mapIdx G = l'.mapIdx G := by
  have hlength : l.length = l'.length := by simpa using congrArg List.length h
  apply List.ext_getElem
  · rw [List.length_mapIdx, List.length_mapIdx, hlength]
  · intro i hi hi'
    rw [List.length_mapIdx] at hi hi'
    have hget := List.getElem_of_eq h (i := i) (by simpa using hi)
    rw [List.getElem_map, List.getElem_map] at hget
    rw [List.getElem_mapIdx, List.getElem_mapIdx]
    exact congrFun hget i

theorem trim_eq_nil_iff {t : Text} : Text.trim t = [] ↔ Text.words t = [] := by
  rw [← Text.words_trim]
  constructor
  · intro h
    rw [h]
    rfl
  · intro h
    obtain ⟨-, -, -, -, -, hstart, -⟩ := Text.exists_trim t
    by_contra hne
    obtain ⟨c, u, hcu⟩ := List.exists_cons_of_ne_nil hne
    rw [hcu] at h hstart
    exact Text.words_ne_nil_of_startsWord (by simpa [Text.startsWord, Text.startsBlank] using hstart)
      h

/-- All that is read of a segment: its declarator at any place, and whether it has a word. -/
def reading (opaques : OpaqueTypes) (s : Text) : (Nat → Declarator) × Bool :=
  (fun index => Declarator.ofText opaques index s, Text.words s ≠ [])

variable {opaques : OpaqueTypes}

theorem ignoresBlanks_reading : IgnoresBlanks (reading opaques) where
  lead c t hc := by
    simp only [reading, Declarator.ignoresBlanks_ofText.lead c t hc,
      ignoresBlanks_words.lead c t hc]
  trail c t hc := by
    simp only [reading, Declarator.ignoresBlanks_ofText.trail c t hc,
      ignoresBlanks_words.trail c t hc]
  squeeze t := by
    simp only [reading, Declarator.ignoresBlanks_ofText.squeeze, ignoresBlanks_words.squeeze]

/-- The declarators of the segments with a word. -/
theorem map_filter_words (ss : List Text) :
    ((ss.filter fun s => Text.words s ≠ []).map fun s index => Declarator.ofText opaques index s) =
      ((ss.map (reading opaques)).filter Prod.snd).map Prod.fst := by
  rw [List.filter_map, List.map_map]
  rfl

/-- The same for the segments that are left when they are trimmed. -/
theorem map_filter_trim (ss : List Text) :
    (((ss.map Text.trim).filter (· ≠ [])).map fun s index => Declarator.ofText opaques index s) =
      ((ss.map (reading opaques)).filter Prod.snd).map Prod.fst := by
  have htrim : (ss.map Text.trim).map (reading opaques) = ss.map (reading opaques) := by
    rw [List.map_map]
    exact List.map_congr_left fun s _ => ignoresBlanks_reading.trim s
  rw [← htrim, ← map_filter_words]
  congr 1
  apply List.filter_congr
  intro s hs
  obtain ⟨t, -, rfl⟩ := List.mem_map.1 hs
  exact decide_eq_decide.2 (not_congr (by rw [trim_eq_nil_iff, Text.words_trim]))

/-- **A list is cut first.**  The declarators of a list that does not spell `void` are those of
    its segments with a word, in order, whatever the blanks are. -/
theorem declarators_eq {list : Text} (hvoid : Text.collapse list ≠ ("void" : Text)) :
    declarators opaques list =
      ((segments list).filter fun s => Text.words s ≠ []).mapIdx (Declarator.ofText opaques) := by
  have hcut : (declarations (Text.collapse list)).mapIdx (Declarator.ofText opaques) =
      ((segments list).filter fun s => Text.words s ≠ []).mapIdx (Declarator.ofText opaques) := by
    apply mapIdx_congr_of_map
    rw [declarations, map_filter_trim, map_filter_words,
      (ignoresBlanks_segments ignoresBlanks_reading).collapse list]
  unfold declarators
  simp only [hvoid, or_false]
  split
  · rename_i hnil
    rw [← hcut, hnil]
    rfl
  · exact hcut

end ParameterList

end HeaderBindings
