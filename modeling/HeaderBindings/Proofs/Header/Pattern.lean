import HeaderBindings.Header.Normal
import HeaderBindings.Proofs.Header.Layout
import HeaderBindings.Proofs.Header.Scan
import Mathlib.Data.List.Range

/-!
# Prototypes as the matches of a pattern

A pattern is a list of items: boundaries, fixed texts, and runs of the characters of a class,
of which some are asked for as groups.  At a place it can match in several ways.  The ways
have an order of preference, by the first item on which they differ: a greedy run is better
the longer it is, a lazy run the shorter it is.  `Pattern.first?` is the best way.

`Pattern.prototype` is the pattern of an exported prototype.  Its gaps are runs of blanks, its
return type is lazy and its other runs are greedy, so in general it reads more than the
grammar allows.  But in a text in which every run of blanks is one space the best way of the
pattern is what `Prototype.read?` reads (`Pattern.first?_prototype`), and so the scan by the
pattern, the scan by the grammar and `prototypes` are the same (`isScan_normalize_iff`).
-/

namespace HeaderBindings.Header

/-! ## 1. Patterns -/

namespace Pattern

inductive Item where
  /-- A word boundary. -/
  | boundary
  | literal (w : Text)
  /-- A run of characters of a class, with the least number of them, greedy or lazy. -/
  | run (p : Char → Bool) (least : Nat) (greedy : Bool)
  /-- An item whose text is asked for. -/
  | group (item : Item)

namespace Item

/-- How an item can be cut off the front of a text: what it takes and what it leaves, in the
    order of preference. -/
def cuts (before : Option Char) (t : Text) : Item → List (Text × Text)
  | boundary => if Prototype.isBoundary before t.head? then [([], t)] else []
  | literal w => (w.isPrefixOf? t).toList.map fun rest => (w, rest)
  | run p least greedy =>
    let sizes := List.range' least ((t.takeWhile p).length + 1 - least)
    (if greedy then sizes.reverse else sizes).map fun n => (t.take n, t.drop n)
  | group item => item.cuts before t

def captured : Item → Text → List Text
  | group _, w => [w]
  | _, _ => []

end Item

/-- The groups of the best way to match the items at the front of a text, and what is left.
    An item is cut off in the first way with which the items behind it match. -/
def first? : List Item → Option Char → Text → Option (List Text × Text)
  | [], _, t => some ([], t)
  | item :: items, before, t =>
    (item.cuts before t).findSome? fun cut =>
      (first? items (cut.1.getLast?.or before) cut.2).map fun r =>
        (item.captured cut.1 ++ r.1, r.2)

def blanks : Item := .run isBlank 1 true

def gap : Item := .run isBlank 0 true

/-- The pattern of a prototype behind its return type. -/
def declared (calling : Text) : List Item :=
  [blanks, .literal calling, blanks, .group (.run isWord 1 true), gap, .literal ['('],
    .group (.run (· ≠ ')') 0 true), .literal [')'], gap, .literal [';']]

/-- The pattern of an exported prototype. -/
def prototype (m : Markers) : List Item :=
  .boundary :: .literal m.exporting :: blanks ::
    .group (.run (fun c => !Prototype.endsType c) 1 false) :: declared m.calling

/-! ## 2. One item -/

theorem first?_boundary (items : List Item) (before : Option Char) (t : Text) :
    first? (.boundary :: items) before t =
      if Prototype.isBoundary before t.head? then first? items before t else none := by
  rw [first?, Item.cuts]
  split
  · simp [Item.captured]
  · rfl

theorem first?_literal (w : Text) (items : List Item) (before : Option Char) (t : Text) :
    first? (.literal w :: items) before t =
      (w.isPrefixOf? t).bind (first? items (w.getLast?.or before)) := by
  rw [first?, Item.cuts]
  cases w.isPrefixOf? t with
  | none => rfl
  | some rest => simp [Item.captured]

theorem first?_literal_cons {c d : Char} (hne : c ≠ d) (items : List Item)
    (before : Option Char) (t : Text) : first? (.literal [c] :: items) before (d :: t) = none := by
  simp [first?_literal, List.isPrefixOf?, hne]

/-- Inside a run the next character is of its class. -/
theorem exists_drop_eq_cons {p : Char → Bool} {t : Text} {n : Nat}
    (hn : n < (t.takeWhile p).length) : ∃ c u, t.drop n = c :: u ∧ p c = true := by
  have ht : t.takeWhile p ++ t.dropWhile p = t := List.takeWhile_append_dropWhile
  have hdrop := @List.drop_append_of_le_length _ (t.takeWhile p) (t.dropWhile p) n (Nat.le_of_lt hn)
  rw [ht] at hdrop
  cases hrun : (t.takeWhile p).drop n with
  | nil => exact absurd (List.drop_eq_nil_iff.1 hrun) (Nat.not_le.2 hn)
  | cons c u =>
    rw [hrun] at hdrop
    have hc : c ∈ (t.takeWhile p).drop n := hrun ▸ List.mem_cons_self
    exact ⟨c, _, hdrop, List.mem_takeWhile_imp (List.mem_of_mem_drop hc)⟩

/-- **A greedy run** takes all it can, if what follows does not match at a character of its
    class. -/
theorem findSome?_cuts_greedy {β : Type} {p : Char → Bool} {least : Nat}
    {before : Option Char} {t : Text} {k : Text × Text → Option β}
    (hstuck : ∀ w c u, p c = true → k (w, c :: u) = none) :
    ((Item.run p least true).cuts before t).findSome? k =
      if least ≤ (t.takeWhile p).length then k (t.takeWhile p, t.dropWhile p) else none := by
  have ht : t.takeWhile p ++ t.dropWhile p = t := List.takeWhile_append_dropWhile
  have htake : t.take (t.takeWhile p).length = t.takeWhile p := by
    have h := @List.take_left _ (t.takeWhile p) (t.dropWhile p)
    rwa [ht] at h
  have hdrop : t.drop (t.takeWhile p).length = t.dropWhile p := by
    have h := @List.drop_left _ (t.takeWhile p) (t.dropWhile p)
    rwa [ht] at h
  rw [Item.cuts, if_pos rfl]
  split
  · rename_i hle
    have hsizes : List.range' least ((t.takeWhile p).length + 1 - least) =
        List.range' least ((t.takeWhile p).length - least) ++ [(t.takeWhile p).length] := by
      rw [Nat.succ_sub hle, List.range'_concat, Nat.one_mul, Nat.add_sub_cancel' hle]
    have hshorter : ∀ cut ∈ (List.range' least ((t.takeWhile p).length - least)).reverse.map
        (fun n => (t.take n, t.drop n)), k cut = none := by
      intro cut hcut
      obtain ⟨n, hn, rfl⟩ := List.mem_map.1 hcut
      rw [List.mem_reverse, List.mem_range'_1] at hn
      obtain ⟨c, u, hcons, hc⟩ := exists_drop_eq_cons (show n < (t.takeWhile p).length by omega)
      rw [hcons]
      exact hstuck _ c u hc
    rw [hsizes, List.reverse_concat, List.map_cons, htake, hdrop, List.findSome?_cons,
      List.findSome?_eq_none_iff.2 hshorter]
    cases k (t.takeWhile p, t.dropWhile p) <;> rfl
  · rename_i hlt
    rw [show (t.takeWhile p).length + 1 - least = 0 by omega]
    rfl

theorem cuts_lazy_cons {p : Char → Bool} (before before' : Option Char) (c : Char) (t : Text) :
    (Item.run p 1 false).cuts before (c :: t) =
      if p c then ([c], t) ::
        ((Item.run p 1 false).cuts before' t).map fun cut => (c :: cut.1, cut.2)
      else [] := by
  rw [Item.cuts, Item.cuts]
  by_cases hc : p c = true
  · have hsizes : List.range' 2 (t.takeWhile p).length =
        (List.range' 1 (t.takeWhile p).length).map (1 + ·) := by
      rw [List.map_add_range']
    simp [List.takeWhile_cons_of_pos hc, hc, List.range'_succ, hsizes, Function.comp_def,
      Nat.add_comm 1]
  · simp [List.takeWhile_cons_of_neg hc, hc]

theorem findSome?_congr {α β : Type} {f g : α → Option β} {l : List α}
    (h : ∀ a ∈ l, f a = g a) : l.findSome? f = l.findSome? g := by
  induction l with
  | nil => rfl
  | cons a l ih =>
    rw [List.findSome?_cons, List.findSome?_cons, h a List.mem_cons_self,
      ih fun b hb => h b (List.mem_cons_of_mem _ hb)]

theorem append_of_mem_cuts {p : Char → Bool} {least : Nat} {greedy : Bool}
    {before : Option Char} {t : Text} {cut : Text × Text}
    (h : cut ∈ (Item.run p least greedy).cuts before t) :
    t = cut.1 ++ cut.2 := by
  obtain ⟨n, -, rfl⟩ := List.mem_map.1 h
  exact (List.take_append_drop n t).symm

/-! ## 3. The readers and the items -/

theorem closing?_eq_isPrefixOf? (c : Char) (t : Text) :
    closing? c t = [c].isPrefixOf? (skipSpace t) := by
  unfold closing?
  cases skipSpace t with
  | nil => rfl
  | cons d u =>
    by_cases hd : d = c
    · simp [hd, List.isPrefixOf?]
    · simp [hd, List.isPrefixOf?, Ne.symm hd]

theorem skipSpace_of_squeeze {t : Text} (ht : Text.squeeze t = t) :
    skipSpace t = t.dropWhile isBlank := by
  cases t with
  | nil => rfl
  | cons c t =>
    by_cases hc : isBlank c = true
    · obtain ⟨rfl, hstart⟩ := (Text.squeeze_cons_eq_iff.1 ht).1 hc
      rw [List.dropWhile_cons_of_pos hc, (Text.span_of_startsBlank hstart).2]
      rfl
    · have hne : c ≠ ' ' := by
        rintro rfl
        exact hc (by decide)
      rw [List.dropWhile_cons_of_neg hc]
      unfold skipSpace
      split
      · rename_i heq
        exact absurd (List.cons_eq_cons.1 heq).1 hne
      · rfl

variable (items : List Item) (before : Option Char)

theorem first?_blanks {t : Text} (ht : Text.squeeze t = t) :
    first? (blanks :: items) before t = (space? t).bind (first? items (some ' ')) := by
  rw [first?, blanks, Item.cuts, if_pos rfl]
  cases t with
  | nil => rfl
  | cons c t =>
    by_cases hc : isBlank c = true
    · obtain ⟨rfl, hstart⟩ := (Text.squeeze_cons_eq_iff.1 ht).1 hc
      simp [List.takeWhile_cons_of_pos hc, (Text.span_of_startsBlank hstart).1, space?,
        Item.captured]
    · have hspace : space? (c :: t) = none := by
        rw [Option.eq_none_iff_forall_ne_some]
        intro rest hrest
        rw [space?_eq_some_iff] at hrest
        rw [(List.cons_eq_cons.1 hrest).1] at hc
        exact hc (by decide)
      rw [hspace]
      simp [List.takeWhile_cons_of_neg hc]

/-- A gap in front of a character. -/
theorem first?_gap {c : Char} (hc : isBlank c = false) (t : Text) :
    first? (gap :: .literal [c] :: items) before t =
      ([c].isPrefixOf? (t.dropWhile isBlank)).bind (first? items (some c)) := by
  rw [first?, gap, findSome?_cuts_greedy, if_pos (Nat.zero_le _), first?_literal]
  · simp [Item.captured]
  · rintro w d u hd
    have hne : c ≠ d := by
      rintro rfl
      rw [hc] at hd
      cases hd
    rw [first?_literal_cons hne]
    rfl

theorem first?_gap_of_squeeze {c : Char} (hc : isBlank c = false) {t : Text}
    (ht : Text.squeeze t = t) :
    first? (gap :: .literal [c] :: items) before t =
      (closing? c t).bind (first? items (some c)) := by
  rw [first?_gap items before hc, closing?_eq_isPrefixOf?, skipSpace_of_squeeze ht]

/-- A word in front of an opening parenthesis. -/
theorem first?_word (t : Text) :
    first? (.group (.run isWord 1 true) :: gap :: .literal ['('] :: items) before t =
      (word? t).bind fun r =>
        (first? (gap :: .literal ['('] :: items) r.1.getLast? r.2).map fun q =>
          (r.1 :: q.1, q.2) := by
  have hstuck : ∀ b d u, isWord d = true →
      first? (gap :: .literal ['('] :: items) b (d :: u) = none := by
    intro b d u hd
    have hblank : ¬ isBlank d = true := by
      intro hblank
      rw [isWord_of_isBlank hblank] at hd
      cases hd
    have hne : '(' ≠ d := by
      rintro rfl
      revert hd
      decide
    rw [first?_gap items b (by decide), List.dropWhile_cons_of_neg hblank]
    simp [List.isPrefixOf?, hne]
  rw [first?, Item.cuts, findSome?_cuts_greedy]
  · unfold word? spanWord
    rw [List.span_eq_takeWhile_dropWhile]
    cases hw : t.takeWhile isWord with
    | nil => simp
    | cons c w => simp [Item.captured, List.getLast?_cons]
  · intro w d u hd
    rw [hstuck _ d u hd]
    rfl

/-- Parameters in front of a closing parenthesis. -/
theorem first?_params (t : Text) :
    first? (.group (.run (· ≠ ')') 0 true) :: .literal [')'] :: items) before t =
      (Prototype.params? t).bind fun r =>
        (first? items (some ')') r.2).map fun q => (r.1 :: q.1, q.2) := by
  rw [first?, Item.cuts, findSome?_cuts_greedy, if_pos (Nat.zero_le _), first?_literal]
  · unfold Prototype.params?
    rw [List.span_eq_takeWhile_dropWhile]
    have hend := List.head?_dropWhile_not (fun c => decide (c ≠ ')')) t
    cases hrest : t.dropWhile (fun c => decide (c ≠ ')')) with
    | nil => rfl
    | cons d u =>
      rw [hrest] at hend
      have hd : d = ')' := by simpa using hend
      simp [hd, Item.captured, List.isPrefixOf?]
  · intro w d u hd
    have hne : ')' ≠ d := (of_decide_eq_true hd).symm
    rw [first?_literal_cons hne]
    rfl

/-! ## 4. The whole prototype -/

theorem first?_declared (calling : Text) {t : Text} (ht : Text.squeeze t = t) :
    first? (declared calling) before t =
      (Prototype.declared? calling t).map fun r => ([r.1.name, r.1.paramText], r.2) := by
  unfold declared Prototype.declared?
  simp only [Option.bind_eq_bind, Option.map_bind, Function.comp_def, Option.pure_def]
  rw [first?_blanks _ _ ht]
  refine Option.bind_congr fun t₁ h₁ => ?_
  rw [space?_eq_some_iff] at h₁
  subst h₁
  have ht₁ := (Text.squeeze_cons_eq_iff.1 ht).2
  rw [first?_literal]
  refine Option.bind_congr fun t₂ h₂ => ?_
  rw [isPrefixOf?_eq_some_iff] at h₂
  subst h₂
  have ht₂ := Text.squeeze_right ht₁
  rw [first?_blanks _ _ ht₂]
  refine Option.bind_congr fun t₃ h₃ => ?_
  rw [space?_eq_some_iff] at h₃
  subst h₃
  have ht₃ := (Text.squeeze_cons_eq_iff.1 ht₂).2
  rw [first?_word]
  refine Option.bind_congr fun ⟨name, t₄⟩ h₄ => ?_
  obtain ⟨rfl, -, -⟩ := word?_eq_some_iff.1 h₄
  have ht₄ := Text.squeeze_right ht₃
  rw [first?_gap_of_squeeze _ _ (by decide) ht₄, Option.map_bind]
  refine Option.bind_congr fun t₅ h₅ => ?_
  obtain ⟨s₁, -, rfl⟩ := (closing?_eq_some_iff (by decide)).1 h₅
  have ht₅ := (Text.squeeze_cons_eq_iff.1 (Text.squeeze_right ht₄)).2
  rw [Function.comp_apply, first?_params, Option.map_bind]
  refine Option.bind_congr fun ⟨params, t₆⟩ h₆ => ?_
  obtain ⟨rfl, -⟩ := Prototype.params?_eq_some_iff.1 h₆
  have ht₆ := (Text.squeeze_cons_eq_iff.1 (Text.squeeze_right ht₅)).2
  rw [Function.comp_apply, Option.map_map, first?_gap_of_squeeze _ _ (by decide) ht₆,
    Option.map_bind]
  rfl

/-- **A lazy run** in front of the rest of a prototype is the search for its call marker. -/
theorem findSome?_cuts_type (calling t : Text) :
    ((Item.run (fun c => !Prototype.endsType c) 1 false).cuts before t).findSome? (fun cut =>
        (Prototype.declared? calling cut.2).map fun r => (cut.1, r)) =
      (Prototype.body? calling t).map fun r =>
        (r.1.returnText, ⟨r.1.name, r.1.paramText⟩, r.2) := by
  induction t with
  | nil => rfl
  | cons c t ih =>
    rw [cuts_lazy_cons before before]
    by_cases hc : Prototype.endsType c = true
    · simp [Prototype.body?, hc]
    · have hc : Prototype.endsType c = false := Bool.eq_false_iff.2 hc
      rw [Prototype.body?_cons hc, hc, if_pos (by rfl), List.findSome?_cons]
      cases Prototype.declared? calling t with
      | some r => rfl
      | none =>
        -- the run goes on, and all that is found behind it gets the character in front
        have hmore : (fun cut : Text × Text =>
              (Prototype.declared? calling cut.2).map fun r => (cut.1, r)) ∘
            (fun cut => (c :: cut.1, cut.2)) =
            Option.map (fun q => (c :: q.1, q.2)) ∘ fun cut : Text × Text =>
              (Prototype.declared? calling cut.2).map fun r => (cut.1, r) := by
          funext cut
          simp [Function.comp_def]
        simp only [Option.map_none]
        rw [List.findSome?_map, hmore, ← List.map_findSome?, ih, Option.map_map, Option.map_map]
        rfl

theorem first?_type (calling : Text) {t : Text} (ht : Text.squeeze t = t) :
    first? (.group (.run (fun c => !Prototype.endsType c) 1 false) :: declared calling) before t =
      (Prototype.body? calling t).map fun r =>
        ([r.1.returnText, r.1.name, r.1.paramText], r.2) := by
  have hcuts : ∀ cut ∈ (Item.run (fun c => !Prototype.endsType c) 1 false).cuts before t,
      ((first? (declared calling) (cut.1.getLast?.or before) cut.2).map fun r =>
        ([cut.1] ++ r.1, r.2)) =
      (Option.map (fun q => ([q.1, q.2.1.name, q.2.1.paramText], q.2.2)) ∘
        fun cut : Text × Text => (Prototype.declared? calling cut.2).map fun r => (cut.1, r))
          cut := by
    intro cut hcut
    rw [append_of_mem_cuts hcut] at ht
    rw [first?_declared _ _ (Text.squeeze_right ht), Option.map_map, Function.comp_apply,
      Option.map_map]
    rfl
  rw [first?, Item.cuts]
  refine (findSome?_congr hcuts).trans ?_
  rw [← List.map_findSome?, findSome?_cuts_type, Option.map_map]
  rfl

/-- **The best way of the pattern** in a text in which every run of blanks is one space is
    what the reader of prototypes reads. -/
theorem first?_prototype (m : Markers) {t : Text} (ht : Text.squeeze t = t) :
    first? (prototype m) before t =
      (Prototype.read? m before t).map fun r =>
        ([r.1.returnText, r.1.name, r.1.paramText], r.2) := by
  unfold prototype Prototype.read?
  rw [first?_boundary]
  split
  · simp only [Option.bind_eq_bind, Option.map_bind, Function.comp_def]
    rw [first?_literal]
    refine Option.bind_congr fun t₁ h₁ => ?_
    rw [isPrefixOf?_eq_some_iff] at h₁
    subst h₁
    have ht₁ := Text.squeeze_right ht
    rw [first?_blanks _ _ ht₁]
    refine Option.bind_congr fun t₂ h₂ => ?_
    rw [space?_eq_some_iff] at h₂
    subst h₂
    exact first?_type (some ' ') m.calling (Text.squeeze_cons_eq_iff.1 ht₁).2
  · rfl

/-! ## 5. Scanning by the pattern -/

/-- The best way of the pattern at `place` has the texts of `p` as its groups, and reaches up
    to `stop`. -/
def IsFirstAt (m : Markers) (t : Text) (place : Nat) (p : Prototype) (stop : Nat) : Prop :=
  ∃ before u after, t = before ++ u ∧ place = before.length ∧
    first? (prototype m) before.getLast? u = some ([p.returnText, p.name, p.paramText], after) ∧
    stop + after.length = t.length

theorem isFirstAt_iff {m : Markers} {t : Text} (ht : Text.squeeze t = t) {place stop : Nat}
    {p : Prototype} : IsFirstAt m t place p stop ↔ IsShortestAt m t place p stop := by
  constructor
  · rintro ⟨before, u, after, rfl, rfl, hfirst, hstop⟩
    rw [first?_prototype _ _ (Text.squeeze_right ht), Option.map_eq_some_iff] at hfirst
    obtain ⟨⟨⟨ret, name, params⟩, rest⟩, hread, heq⟩ := hfirst
    obtain ⟨ret', name', params'⟩ := p
    cases heq
    exact isShortestAt_length_iff.2 ⟨rest, hread, hstop⟩
  · intro h
    obtain ⟨before, u, rfl, rfl⟩ := h.1.exists_eq_append
    obtain ⟨after, hread, hstop⟩ := isShortestAt_length_iff.1 h
    refine ⟨before, u, after, rfl, rfl, ?_, hstop⟩
    rw [first?_prototype _ _ (Text.squeeze_right ht), hread]
    rfl

theorem isScan_isFirstAt_iff {m : Markers} {t : Text} (ht : Text.squeeze t = t)
    {ms : List Match} : IsScan (IsFirstAt m t) 0 ms ↔ ms = prototypes m t := by
  have hreads : IsFirstAt m t = IsShortestAt m t := by
    funext place p stop
    exact propext (isFirstAt_iff ht)
  rw [hreads, isScan_prototypes_iff]

end Pattern

/-- **The matches of a header** are the scan of its normal form by the grammar, and they are
    its scan by the pattern. -/
theorem isScan_normalize_iff {m : Markers} {header : Text} {ms : List Match} :
    (IsScan (IsShortestAt m (normalize header)) 0 ms ↔ ms = prototypes m (normalize header)) ∧
      (IsScan (Pattern.IsFirstAt m (normalize header)) 0 ms ↔
        ms = prototypes m (normalize header)) :=
  ⟨isScan_prototypes_iff, Pattern.isScan_isFirstAt_iff (Text.squeeze_collapse (strip header))⟩

end HeaderBindings.Header
