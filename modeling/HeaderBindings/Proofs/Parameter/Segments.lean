import HeaderBindings.Parameter
import HeaderBindings.Proofs.Text.Collapse
import Mathlib.Data.List.Infix

/-!
# Cutting parameter lists

A list is cut at the commas outside parentheses, where the depth of parentheses is counted
from the beginning of the list and never falls below zero.  Nothing is lost by it: the
segments, joined by commas, are the list (`joinWith_segmentsFrom`).

Which commas cut can be said of each segment by itself, because every cut is at depth zero and
so the count starts anew behind it.  A segment is not cut again, and all but the last one close
what they open.  These properties determine the segments: `segments_eq_iff_isCut` says that a
list of texts with them is cut into just these texts, whatever stray parentheses they have.
-/

namespace HeaderBindings.ParameterList

/-! ## 1. Nothing is lost -/

theorem extendFirst_ne_nil (c : Char) (ss : List Text) : extendFirst c ss ≠ [] := by
  cases ss <;> exact List.cons_ne_nil _ _

theorem segmentsFrom_ne_nil (depth : Nat) (t : Text) : segmentsFrom depth t ≠ [] := by
  cases t with
  | nil => exact List.cons_ne_nil _ _
  | cons c t =>
    unfold segmentsFrom
    split
    · exact List.cons_ne_nil _ _
    · exact extendFirst_ne_nil c _

theorem joinWith_nil_cons {ss : List Text} (hne : ss ≠ []) :
    Text.joinWith [','] ([] :: ss) = ',' :: Text.joinWith [','] ss := by
  obtain ⟨s, ss, rfl⟩ := List.exists_cons_of_ne_nil hne
  rw [Text.joinWith_cons_cons]
  rfl

theorem joinWith_extendFirst (c : Char) {ss : List Text} (hne : ss ≠ []) :
    Text.joinWith [','] (extendFirst c ss) = c :: Text.joinWith [','] ss := by
  obtain ⟨s, ss, rfl⟩ := List.exists_cons_of_ne_nil hne
  rw [extendFirst, Text.joinWith_cons, Text.joinWith_cons, List.cons_append]

/-- **Joining undoes cutting**, at whatever depth it begins. -/
theorem joinWith_segmentsFrom (depth : Nat) (t : Text) :
    Text.joinWith [','] (segmentsFrom depth t) = t := by
  induction t generalizing depth with
  | nil => exact Text.joinWith_singleton _ _
  | cons c t ih =>
    unfold segmentsFrom
    split
    · rename_i hcut
      rw [joinWith_nil_cons (segmentsFrom_ne_nil 0 t), ih, hcut.1]
    · rw [joinWith_extendFirst c (segmentsFrom_ne_nil _ t), ih]

theorem mem_of_mem_segmentsFrom {depth : Nat} {t s : Text} {c : Char}
    (hs : s ∈ segmentsFrom depth t) (hc : c ∈ s) : c ∈ t := by
  rw [← joinWith_segmentsFrom depth t]
  exact Text.mem_joinWith hs hc

/-! ## 2. Texts that are not cut -/

/-- Reading the text leads from one depth to the other and cuts nothing. -/
def IsUncut (depth : Nat) (t : Text) (after : Nat) : Prop :=
  ∀ rest, segmentsFrom depth (t ++ rest) = t.foldr extendFirst (segmentsFrom after rest)

theorem isUncut_nil (depth : Nat) : IsUncut depth [] depth := fun _ => rfl

theorem IsUncut.append {d e f : Nat} {x y : Text} (hx : IsUncut d x e) (hy : IsUncut e y f) :
    IsUncut d (x ++ y) f := by
  intro rest
  rw [List.append_assoc, hx, hy, List.foldr_append]

/-- Only a comma outside parentheses cuts. -/
theorem isUncut_singleton {c : Char} {depth : Nat} (h : c = ',' → depth ≠ 0) :
    IsUncut depth [c] (depthAfter depth c) := by
  intro rest
  have hcut : ¬ (c = ',' ∧ depth = 0) := fun ⟨hc, hdepth⟩ => h hc hdepth
  rw [List.singleton_append, segmentsFrom, if_neg hcut]
  rfl

theorem foldr_extendFirst (t s : Text) (ss : List Text) :
    t.foldr extendFirst (s :: ss) = (t ++ s) :: ss := by
  induction t with
  | nil => rfl
  | cons c t ih =>
    rw [List.foldr_cons, ih]
    rfl

theorem IsUncut.segmentsFrom_eq {depth after : Nat} {t : Text} (h : IsUncut depth t after) :
    segmentsFrom depth t = [t] := by
  have hone := h []
  rwa [List.append_nil, segmentsFrom, foldr_extendFirst, List.append_nil] at hone

/-- Behind a text that ends outside parentheses a comma cuts. -/
theorem IsUncut.segmentsFrom_append_comma {depth : Nat} {t : Text} (h : IsUncut depth t 0)
    (rest : Text) : segmentsFrom depth (t ++ ',' :: rest) = t :: segments rest := by
  rw [h, segmentsFrom, if_pos ⟨rfl, rfl⟩, foldr_extendFirst, List.append_nil]
  rfl

/-- A list is cut between the texts it was joined from, if none of them is cut itself and all
    but the last one end outside parentheses. -/
theorem segments_joinWith_of_alone {ts : List Text} (hne : ts ≠ [])
    (halone : ∀ t ∈ ts, segments t = [t]) (huncut : ∀ t ∈ ts.dropLast, IsUncut 0 t 0) :
    segments (Text.joinWith [','] ts) = ts := by
  induction ts with
  | nil => exact absurd rfl hne
  | cons t ts ih =>
    cases ts with
    | nil => rw [Text.joinWith_singleton, halone t List.mem_cons_self]
    | cons u us =>
      have ht : IsUncut 0 t 0 := huncut t List.mem_cons_self
      have hrest := ih (List.cons_ne_nil u us) (fun v hv => halone v (List.mem_cons_of_mem t hv))
        fun v hv => huncut v (List.mem_cons_of_mem t hv)
      rw [Text.joinWith_cons_cons, List.append_assoc, List.singleton_append, segments,
        ht.segmentsFrom_append_comma, hrest]

/-- The same for texts that all end outside parentheses. -/
theorem segments_joinWith {ts : List Text} (hne : ts ≠ []) (h : ∀ t ∈ ts, IsUncut 0 t 0) :
    segments (Text.joinWith [','] ts) = ts :=
  segments_joinWith_of_alone hne (fun t ht => (h t ht).segmentsFrom_eq)
    fun t ht => h t (List.mem_of_mem_dropLast ht)

/-! ## 3. Depth -/

/-- The depth of parentheses behind a text. -/
def depthBehind (depth : Nat) (t : Text) : Nat := t.foldl depthAfter depth

theorem depthBehind_concat (depth : Nat) (t : Text) (c : Char) :
    depthBehind depth (t ++ [c]) = depthAfter (depthBehind depth t) c := List.foldl_concat ..

/-- Every opening parenthesis is closed by one that follows it: no end of the text opens more
    than it closes.  Closing parentheses that close nothing do no harm. -/
def IsClosed (t : Text) : Prop := ∀ b ∈ t.tails, b.count '(' ≤ b.count ')'

instance (t : Text) : Decidable (IsClosed t) :=
  inferInstanceAs (Decidable (∀ b ∈ t.tails, b.count '(' ≤ b.count ')'))

theorem forall_suffix_concat {t : Text} {c : Char} {P : Text → Prop} :
    (∀ b, b <:+ t ++ [c] → P b) ↔ P [] ∧ ∀ b, b <:+ t → P (b ++ [c]) := by
  constructor
  · intro h
    exact ⟨h [] (List.nil_suffix), fun b hb => h _ (List.suffix_concat_iff.2 (Or.inr ⟨b, rfl, hb⟩))⟩
  · rintro ⟨hnil, hconcat⟩ b hb
    rcases List.suffix_concat_iff.1 hb with rfl | ⟨u, rfl, hu⟩
    · exact hnil
    · exact hconcat u hu

/-- The depth behind a text is the largest excess of opening parentheses in one of its ends. -/
theorem depthBehind_le_iff {t : Text} {k : Nat} :
    depthBehind 0 t ≤ k ↔ ∀ b, b <:+ t → b.count '(' ≤ b.count ')' + k := by
  induction t using List.reverseRecOn generalizing k with
  | nil => simp [depthBehind]
  | append_singleton t c ih =>
    rw [depthBehind_concat, depthAfter, forall_suffix_concat]
    simp only [List.count_append, List.count_singleton, beq_iff_eq, List.count_nil,
      Nat.zero_le, true_and]
    by_cases hopening : c = '('
    · subst hopening
      cases k with
      | zero =>
        -- the last character alone opens more than it closes
        refine iff_of_false (by simp) fun h => ?_
        have := h [] List.nil_suffix
        simp at this
      | succ k =>
        rw [if_pos rfl, Nat.add_le_add_iff_right, ih]
        refine forall₂_congr fun b _ => ?_
        simp only [if_pos, Char.reduceEq, if_false]
        omega
    · rw [if_neg hopening]
      by_cases hclosing : c = ')'
      · subst hclosing
        rw [if_pos rfl, Nat.sub_le_iff_le_add, ih]
        refine forall₂_congr fun b _ => ?_
        simp only [if_pos, Char.reduceEq, if_false]
        omega
      · rw [if_neg hclosing, ih]
        refine forall₂_congr fun b _ => ?_
        rw [if_neg hopening, if_neg hclosing]
        omega

theorem isClosed_iff {t : Text} : IsClosed t ↔ depthBehind 0 t = 0 := by
  rw [← Nat.le_zero, depthBehind_le_iff, IsClosed]
  simp only [List.mem_tails, Nat.add_zero]

/-! ## 4. The first cut -/

/-- A text is not cut, or it is cut behind a part that is not and ends outside parentheses. -/
theorem isUncut_or_cut (depth : Nat) (t : Text) : IsUncut depth t (depthBehind depth t) ∨
    ∃ a rest, t = a ++ ',' :: rest ∧ IsUncut depth a 0 ∧ depthBehind depth a = 0 := by
  induction t generalizing depth with
  | nil => exact Or.inl (isUncut_nil depth)
  | cons c t ih =>
    by_cases hcut : c = ',' ∧ depth = 0
    · obtain ⟨rfl, rfl⟩ := hcut
      exact Or.inr ⟨[], t, rfl, isUncut_nil 0, rfl⟩
    · have hc : IsUncut depth [c] (depthAfter depth c) :=
        isUncut_singleton fun hcomma hdepth => hcut ⟨hcomma, hdepth⟩
      rcases ih (depthAfter depth c) with ht | ⟨a, rest, rfl, ha, hdepth⟩
      · exact Or.inl (hc.append ht)
      · exact Or.inr ⟨c :: a, rest, rfl, hc.append ha, hdepth⟩

/-- Induction along the cuts of a text. -/
theorem cutInduction {motive : Text → Prop} (uncut : ∀ t, segments t = [t] → motive t)
    (cut : ∀ a rest, IsUncut 0 a 0 → IsClosed a → motive rest → motive (a ++ ',' :: rest))
    (t : Text) : motive t := by
  rcases isUncut_or_cut 0 t with ht | ⟨a, rest, ht, ha, hdepth⟩
  · exact uncut t ht.segmentsFrom_eq
  · have hshorter : rest.length < t.length := by
      rw [ht, List.length_append, List.length_cons]
      omega
    rw [ht]
    exact cut a rest ha (isClosed_iff.2 hdepth) (cutInduction uncut cut rest)
termination_by t.length

/-- A text that is its only segment can be read without a cut. -/
theorem isUncut_of_segments_eq {t : Text} (h : segments t = [t]) :
    IsUncut 0 t (depthBehind 0 t) := by
  rcases isUncut_or_cut 0 t with ht | ⟨a, rest, rfl, ha, -⟩
  · exact ht
  · rw [segments, ha.segmentsFrom_append_comma] at h
    exact absurd (List.cons_eq_cons.1 h).2 (segmentsFrom_ne_nil 0 rest)

/-! ## 5. The segments -/

/-- The texts are what the list is cut into. -/
structure IsCut (ts : List Text) (list : Text) : Prop where
  /-- There is always a segment, be it empty. -/
  ne_nil : ts ≠ []
  /-- The commas between the segments are all that is left out. -/
  joined : Text.joinWith [','] ts = list
  /-- No segment is cut again. -/
  alone : ∀ t ∈ ts, segments t = [t]
  /-- A cut stands outside parentheses. -/
  closed : ∀ t ∈ ts.dropLast, IsClosed t

theorem isCut_segments (list : Text) : IsCut (segments list) list := by
  induction list using cutInduction with
  | uncut t ht =>
    rw [ht]
    exact ⟨List.cons_ne_nil t [], Text.joinWith_singleton _ t, by simpa using ht, by simp⟩
  | cut a rest ha hclosed ih =>
    have hsegments : segments (a ++ ',' :: rest) = a :: segments rest :=
      ha.segmentsFrom_append_comma rest
    refine ⟨segmentsFrom_ne_nil 0 _, joinWith_segmentsFrom 0 _, ?_, ?_⟩
    · rw [hsegments]
      intro t ht
      rcases List.mem_cons.1 ht with rfl | ht
      · exact ha.segmentsFrom_eq
      · exact ih.alone t ht
    · rw [hsegments, List.dropLast_cons_of_ne_nil ih.ne_nil]
      intro t ht
      rcases List.mem_cons.1 ht with rfl | ht
      · exact hclosed
      · exact ih.closed t ht

/-- Outside parentheses a list is cut at all of its commas. -/
theorem comma_notMem_of_mem_segments {t s : Text} (h : '(' ∉ t) (hs : s ∈ segments t) :
    ',' ∉ s := by
  have hopening : '(' ∉ s := fun hmem => h (mem_of_mem_segmentsFrom hs hmem)
  have halone := (isCut_segments t).alone s hs
  intro hcomma
  obtain ⟨a, rest, rfl, hfirst⟩ := List.eq_append_cons_of_mem hcomma
  have hclosed : IsClosed a := by
    intro b hb
    have hnone : '(' ∉ b := fun hmem =>
      hopening (List.mem_append_left _ (((List.mem_tails _ _).1 hb).subset hmem))
    rw [List.count_eq_zero_of_not_mem hnone]
    exact Nat.zero_le _
  rcases isUncut_or_cut 0 a with ha | ⟨u, v, rfl, -⟩
  · rw [isClosed_iff.1 hclosed] at ha
    rw [segments, ha.segmentsFrom_append_comma] at halone
    exact absurd (List.cons_eq_cons.1 halone).2 (segmentsFrom_ne_nil 0 rest)
  · exact hfirst (by simp)

/-- **Cutting and joining undo one another.**  The segments of a list are its only cut: joined
    by commas they are the list, none of them is cut again, and all but the last one close
    their parentheses; and texts with these properties are the segments of the list that they
    are joined to. -/
theorem segments_eq_iff_isCut (list : Text) (ts : List Text) :
    segments list = ts ↔ IsCut ts list := by
  constructor
  · rintro rfl
    exact isCut_segments list
  · intro h
    have huncut : ∀ t ∈ ts.dropLast, IsUncut 0 t 0 := by
      intro t ht
      have hdepth := isClosed_iff.1 (h.closed t ht)
      have hread := isUncut_of_segments_eq (h.alone t (List.mem_of_mem_dropLast ht))
      rwa [hdepth] at hread
    rw [← h.joined, segments_joinWith_of_alone h.ne_nil h.alone huncut]

/-- A closing parenthesis too many does not keep a comma from cutting, an opening one does. -/
example : segments "a), (b, c), d(, e" = [("a)" : Text), " (b, c)", " d(, e"] := by decide

end HeaderBindings.ParameterList
