import HeaderBindings.Proofs.Names
import HeaderBindings.Proofs.OpaqueTypes
import HeaderBindings.Proofs.Search
import Mathlib.Tactic.Tauto

/-!
# The choice of handle names

Aliases are chosen in the order of the native names.  While a name or its marker is taken,
or the name is a keyword, a copy of `Handle` is put behind it (`Renames`).  An alias can
take a name that a later native name would have, so that one change brings about another;
still each of these loops ends.  Every taken name rules out two candidates at most, a
candidate with a copy of `Handle` is no keyword, and the candidates are pairwise distinct
(`exists_isFree_candidate`).  Only for a name that begins with a digit does the loop go on
for ever, since nothing that is put behind the name takes the digit away (`renames_iff`).

The main result, `isNaming_ofNames`, says what the choice comes to: the native names are
those that were given, each alias is the first free candidate, and no two of the names that
generated files declare are equal.
-/

namespace HeaderBindings.OpaqueTypes

open Identifier

/-! ## 1. Candidates -/

theorem length_candidate (name : Text) (copies : Nat) :
    (candidate name copies).length = name.length + copies * 6 := by
  simp [candidate, List.length_flatten]

theorem candidate_injective (name : Text) : Function.Injective (candidate name) := by
  intro i j h
  have hlength := congrArg List.length h
  rw [length_candidate, length_candidate] at hlength
  omega

theorem candidate_zero (name : Text) : candidate name 0 = name := List.append_nil name

theorem candidate_succ (name : Text) (copies : Nat) :
    candidate name (copies + 1) = candidate (name ++ "Handle") copies := by
  rw [candidate, candidate, List.replicate_succ, List.flatten_cons, List.append_assoc]

/-- Copies of `Handle` neither put a digit in front of a name nor take one away. -/
theorem startsWithDigit_candidate (name : Text) (copies : Nat) :
    startsWithDigit (candidate name copies) = startsWithDigit name := by
  cases name with
  | nil =>
    cases copies with
    | zero => rfl
    | succ copies =>
      rw [candidate, List.replicate_succ, List.flatten_cons]
      rfl
  | cons c name => rfl

/-- No keyword ends in `Handle`. -/
theorem not_isSuffix_of_mem_keywords :
    ∀ word ∈ pathKeywords ++ keywords, ¬ "Handle".toList <:+ word := by
  decide

theorem isSuffix_candidate_succ (name : Text) (copies : Nat) :
    "Handle".toList <:+ candidate name (copies + 1) := by
  rw [candidate, List.replicate_succ', List.flatten_append, List.flatten_singleton,
    ← List.append_assoc]
  exact List.suffix_append _ _

/-- Only the native name itself can be a keyword. -/
theorem isPlain_candidate_succ {name : Text} (h : startsWithDigit name = false)
    (copies : Nat) : IsPlain (candidate name (copies + 1)) := by
  have hsuffix := isSuffix_candidate_succ name copies
  have hkeyword : ∀ word ∈ pathKeywords ++ keywords, candidate name (copies + 1) ≠ word := by
    rintro word hword rfl
    exact not_isSuffix_of_mem_keywords _ hword hsuffix
  refine ⟨?_, ?_, ?_⟩
  · rwa [startsWithDigit_candidate]
  · intro hmem
    exact hkeyword _ (List.mem_append_left _ hmem) rfl
  · intro hmem
    exact hkeyword _ (List.mem_append_right _ hmem) rfl

/-! ## 2. The loop ends -/

theorem isFree_congr {taken taken' : List Text} (h : ∀ x, x ∈ taken ↔ x ∈ taken')
    (name : Text) : IsFree taken name ↔ IsFree taken' name := by
  rw [IsFree, IsFree, h, h]

/-- A marker determines the alias that it belongs to. -/
theorem dropLast_markerName (handle : Text) :
    (OpaqueType.markerName handle).take ((OpaqueType.markerName handle).length - 4) =
      handle := by
  simp [OpaqueType.markerName]

/-- **Some candidate is free.** -/
theorem exists_isFree_candidate (taken : List Text) {name : Text}
    (h : startsWithDigit name = false) :
    ∃ copies < candidateBound taken, IsFree taken (candidate name copies) := by
  -- the names that a taken name rules out: itself, and the one whose marker it is
  have hinj : Function.Injective fun copies => candidate name (copies + 1) := by
    intro i j hij
    have := candidate_injective name hij
    omega
  obtain ⟨copies, hlt, hfree⟩ := exists_lt_notMem_of_injective hinj
    (taken ++ taken.map fun x => x.take (x.length - 4))
  rw [List.mem_append, not_or] at hfree
  refine ⟨copies + 1, ?_, hfree.1, ?_, isPlain_candidate_succ h copies⟩
  · rw [List.length_append, List.length_map] at hlt
    rw [candidateBound]
    omega
  · intro hmarker
    apply hfree.2
    rw [List.mem_map]
    exact ⟨_, hmarker, dropLast_markerName _⟩

/-- A name that begins with a digit has no free candidate. -/
theorem not_isFree_candidate {name : Text} (h : startsWithDigit name = true)
    (taken : List Text) (copies : Nat) : ¬ IsFree taken (candidate name copies) := by
  rintro ⟨-, -, hdigit, -⟩
  rw [startsWithDigit_candidate, h] at hdigit
  cases hdigit

/-- While a name is not free, a copy of `Handle` is put behind it. -/
inductive Renames (taken : List Text) : Text → Text → Prop where
  | free {name : Text} (h : IsFree taken name) : Renames taken name name
  | again {name handle : Text} (h : ¬ IsFree taken name)
      (rest : Renames taken (name ++ "Handle") handle) : Renames taken name handle

/-- The loop has one end at most. -/
theorem Renames.unique {taken : List Text} {name a b : Text} (ha : Renames taken name a)
    (hb : Renames taken name b) : a = b := by
  induction ha with
  | free h =>
    cases hb with
    | free _ => rfl
    | again hclash _ => exact absurd h hclash
  | again h _ ih =>
    cases hb with
    | free hfree => exact absurd hfree h
    | again _ rest => exact ih rest

/-- The loop can end with a free candidate only. -/
theorem Renames.exists_isFree_candidate {taken : List Text} {name handle : Text}
    (h : Renames taken name handle) : ∃ copies, IsFree taken (candidate name copies) := by
  induction h with
  | @free name h =>
    rw [← candidate_zero name] at h
    exact ⟨0, h⟩
  | again _ _ ih =>
    obtain ⟨copies, hfree⟩ := ih
    rw [← candidate_succ] at hfree
    exact ⟨copies + 1, hfree⟩

/-- The candidate with the least number of copies that is free. -/
def IsFirstFree (taken : List Text) (name handle : Text) : Prop :=
  ∃ copies, handle = candidate name copies ∧ IsFree taken handle ∧
    ∀ fewer < copies, ¬ IsFree taken (candidate name fewer)

/-- **The loop ends with the first free candidate.** -/
theorem IsFirstFree.renames {taken : List Text} {name handle : Text}
    (h : IsFirstFree taken name handle) : Renames taken name handle := by
  obtain ⟨copies, rfl, hfree, hleast⟩ := h
  induction copies generalizing name with
  | zero =>
    rw [candidate_zero] at hfree ⊢
    exact .free hfree
  | succ copies ih =>
    have hname : ¬ IsFree taken name := by
      rw [← candidate_zero name]
      exact hleast 0 (Nat.succ_pos copies)
    rw [candidate_succ] at hfree ⊢
    refine .again hname (ih hfree ?_)
    intro fewer hfewer
    rw [← candidate_succ]
    exact hleast (fewer + 1) (Nat.succ_lt_succ hfewer)

theorem isFirstFree_aliasFor (taken : List Text) {name : Text}
    (h : startsWithDigit name = false) : IsFirstFree taken name (aliasFor taken name) := by
  have hsome : ∃ copies < candidateBound taken,
      decide (IsFree taken (candidate name copies)) = true := by
    obtain ⟨copies, hlt, hfree⟩ := exists_isFree_candidate taken h
    exact ⟨copies, hlt, decide_eq_true hfree⟩
  refine ⟨_, rfl, of_decide_eq_true (passes_leastBelow hsome).1, ?_⟩
  intro fewer hfewer
  exact of_decide_eq_false (not_passes_of_lt_leastBelow hfewer)

/-- **The loop ends just for the names that begin with no digit**, and it ends with the
    alias. -/
theorem renames_iff {taken : List Text} {name handle : Text} : Renames taken name handle ↔
    startsWithDigit name = false ∧ handle = aliasFor taken name := by
  constructor
  · intro h
    have hdigit : startsWithDigit name = false := by
      obtain ⟨copies, hfree⟩ := h.exists_isFree_candidate
      by_contra hdigit
      rw [Bool.not_eq_false] at hdigit
      exact not_isFree_candidate hdigit taken copies hfree
    exact ⟨hdigit, h.unique (isFirstFree_aliasFor taken hdigit).renames⟩
  · rintro ⟨hdigit, rfl⟩
    exact (isFirstFree_aliasFor taken hdigit).renames

theorem IsFirstFree.congr {taken taken' : List Text} (htaken : ∀ x, x ∈ taken ↔ x ∈ taken')
    {name handle : Text} (h : IsFirstFree taken name handle) :
    IsFirstFree taken' name handle := by
  obtain ⟨copies, hhandle, hfree, hleast⟩ := h
  refine ⟨copies, hhandle, (isFree_congr htaken _).1 hfree, ?_⟩
  intro fewer hfewer hfree'
  exact hleast fewer hfewer ((isFree_congr htaken _).2 hfree')

/-! ## 3. The names that are chosen -/

/-- The aliases and the markers of some opaque types. -/
def chosen (os : List OpaqueType) : List Text := os.flatMap fun o => [o.handle, o.marker]

theorem chosen_cons (o : OpaqueType) (os : List OpaqueType) :
    chosen (o :: os) = o.handle :: o.marker :: chosen os := rfl

theorem handles_sublist_chosen (os : List OpaqueType) :
    (os.map (·.handle)).Sublist (chosen os) := by
  induction os with
  | nil => exact List.Sublist.slnil
  | cons o os ih => exact (ih.cons o.marker).cons_cons o.handle

theorem markers_sublist_chosen (os : List OpaqueType) :
    (os.map (·.marker)).Sublist (chosen os) := by
  induction os with
  | nil => exact List.Sublist.slnil
  | cons o os ih => exact (ih.cons_cons o.marker).cons o.handle

theorem handle_ne_marker (o : OpaqueType) : o.handle ≠ o.marker := by
  intro h
  have hlength := congrArg List.length h
  simp [OpaqueType.marker, OpaqueType.markerName] at hlength

section
variable {taken names : List Text} (h : ∀ name ∈ names, startsWithDigit name = false)
include h

/-- The names that are chosen are new. -/
theorem notMem_of_mem_chosen_assign {x : Text} (hx : x ∈ chosen (assign taken names)) :
    x ∉ taken := by
  induction names generalizing taken with
  | nil => cases hx
  | cons name names ih =>
    obtain ⟨-, -, hfree, -⟩ := isFirstFree_aliasFor taken (h name List.mem_cons_self)
    rw [assign, chosen_cons] at hx
    rcases List.mem_cons.1 hx with rfl | hx
    · exact hfree.1
    · rcases List.mem_cons.1 hx with rfl | hx
      · exact hfree.2.1
      · intro hmem
        have hrest := ih (fun n hn => h n (List.mem_cons_of_mem _ hn)) hx
        exact hrest (List.mem_cons_of_mem _ (List.mem_cons_of_mem _ hmem))

theorem nodup_chosen_assign : (chosen (assign taken names)).Nodup := by
  induction names generalizing taken with
  | nil => exact List.nodup_nil
  | cons name names ih =>
    have hrest : ∀ n ∈ names, startsWithDigit n = false :=
      fun n hn => h n (List.mem_cons_of_mem _ hn)
    rw [assign, chosen_cons]
    refine List.nodup_cons.2 ⟨?_, List.nodup_cons.2 ⟨?_, ih hrest⟩⟩
    · intro hmem
      rcases List.mem_cons.1 hmem with heq | hmem
      · exact handle_ne_marker _ heq
      · exact notMem_of_mem_chosen_assign hrest hmem List.mem_cons_self
    · intro hmem
      exact notMem_of_mem_chosen_assign hrest hmem
        (List.mem_cons_of_mem _ List.mem_cons_self)

/-- Each alias is the first candidate that the names chosen before it leave free. -/
theorem isFirstFree_of_assign_eq_append {pre post : List OpaqueType} {o : OpaqueType}
    (hsplit : assign taken names = pre ++ o :: post) :
    IsFirstFree (taken ++ chosen pre) o.name o.handle := by
  induction names generalizing taken pre with
  | nil => cases pre <;> cases hsplit
  | cons name names ih =>
    rw [assign] at hsplit
    cases pre with
    | nil =>
      obtain ⟨rfl, -⟩ := List.cons_eq_cons.1 hsplit
      rw [chosen, List.flatMap_nil, List.append_nil]
      exact isFirstFree_aliasFor taken (h name List.mem_cons_self)
    | cons e pre =>
      obtain ⟨rfl, htail⟩ := List.cons_eq_cons.1 hsplit
      have hrest := ih (fun n hn => h n (List.mem_cons_of_mem _ hn)) htail
      apply hrest.congr
      intro x
      simp only [chosen_cons, List.mem_append, List.mem_cons]
      tauto

end

/-! ## 4. The naming -/

/-- The names that are taken when the alias of a native name is chosen: the other items of
    generated files, and what has been chosen for smaller native names. -/
def takenBefore (s : OpaqueTypes) (name : Text) : List Text :=
  reservedItems ++ chosen (s.entries.filter (·.name < name))

/-- The set holds the given native names, with the aliases that the renaming loops end
    with. -/
structure IsNaming (natives : List Text) (s : OpaqueTypes) : Prop where
  /-- The keys are the given names. -/
  contains : ∀ name, s.contains name = true ↔ name ∈ natives
  /-- Each of them is there once, in its place. -/
  increasing : s.nativeNames.Pairwise (· < ·)
  /-- The renaming loop of each of them ends with its alias. -/
  renames : ∀ o ∈ s.entries, Renames (s.takenBefore o.name) o.name o.handle
  /-- Fewer copies would not do. -/
  first_free : ∀ o ∈ s.entries, IsFirstFree (s.takenBefore o.name) o.name o.handle
  /-- Aliases, markers and the other items of generated files are pairwise distinct. -/
  nodup : (reservedItems ++ chosen s.entries).Nodup
  /-- No alias is a keyword. -/
  plain : ∀ o ∈ s.entries, IsPlain o.handle

/-- In a list that is increasing by native names, the entries with smaller ones stand in
    front. -/
theorem filter_name_lt {pre post : List OpaqueType} {o : OpaqueType}
    (h : ((pre ++ o :: post).map (·.name)).Pairwise (· < ·)) :
    (pre ++ o :: post).filter (·.name < o.name) = pre := by
  rw [List.pairwise_map, List.pairwise_append, List.pairwise_cons] at h
  obtain ⟨-, ⟨hpost, -⟩, hpre⟩ := h
  have hfront : pre.filter (·.name < o.name) = pre := by
    rw [List.filter_eq_self]
    intro e he
    exact decide_eq_true (hpre e he o List.mem_cons_self)
  have hback : (o :: post).filter (·.name < o.name) = [] := by
    rw [List.filter_eq_nil_iff]
    intro e he
    rw [decide_eq_true_iff]
    rcases List.mem_cons.1 he with rfl | he
    · exact List.lt_irrefl _
    · exact List.lt_asymm (hpost e he)
  rw [List.filter_append, hfront, hback, List.append_nil]

/-- The loops of a set all end if and only if no native name begins with a digit. -/
theorem forall_exists_renames_iff {natives : List Text} :
    (∀ o ∈ (ofNames natives).entries,
      ∃ handle, Renames ((ofNames natives).takenBefore o.name) o.name handle) ↔
      ∀ name ∈ natives, startsWithDigit name = false := by
  constructor
  · intro h name hname
    obtain ⟨o, ho, rfl⟩ := List.mem_map.1 (mem_nativeNames_ofNames.2 hname)
    obtain ⟨handle, hrenames⟩ := h o ho
    exact (renames_iff.1 hrenames).1
  · intro h o ho
    have hname : o.name ∈ natives := mem_nativeNames_ofNames.1 (List.mem_map_of_mem ho)
    exact ⟨_, renames_iff.2 ⟨h o.name hname, rfl⟩⟩

section
variable {natives : List Text} (h : ∀ name ∈ natives, startsWithDigit name = false)
include h

theorem startsWithDigit_of_mem_sorted : ∀ name ∈ Names.sorted natives,
    startsWithDigit name = false :=
  fun name hname => h name (Names.mem_sorted.1 hname)

theorem isFirstFree_of_mem_ofNames {o : OpaqueType} (ho : o ∈ (ofNames natives).entries) :
    IsFirstFree ((ofNames natives).takenBefore o.name) o.name o.handle := by
  obtain ⟨pre, post, hsplit⟩ := List.append_of_mem ho
  have hincreasing : ((ofNames natives).entries.map (·.name)).Pairwise (· < ·) := by
    rw [show (ofNames natives).entries.map (·.name) = _ from nativeNames_ofNames natives]
    exact Names.pairwise_sorted natives
  rw [hsplit] at hincreasing
  rw [takenBefore, hsplit, filter_name_lt hincreasing]
  exact isFirstFree_of_assign_eq_append (startsWithDigit_of_mem_sorted h) hsplit

theorem nodup_reservedItems_append_chosen :
    (reservedItems ++ chosen (ofNames natives).entries).Nodup := by
  have hnames := startsWithDigit_of_mem_sorted h
  refine List.nodup_append.2 ⟨by decide, nodup_chosen_assign hnames, ?_⟩
  rintro x hx y hy rfl
  exact notMem_of_mem_chosen_assign hnames hy hx

end

/-- **The choice of handle names.**  For every collection of native names, none of which
    begins with a digit, all renaming loops end and leave distinct names; the result
    depends on the set of the native names only. -/
theorem isNaming_ofNames {natives : List Text}
    (h : ∀ name ∈ natives, startsWithDigit name = false) :
    IsNaming natives (ofNames natives) ∧
      ∀ others, (∀ name, name ∈ others ↔ name ∈ natives) → ofNames others = ofNames natives := by
  constructor
  · refine ⟨?_, ?_, ?_, ?_, nodup_reservedItems_append_chosen h, ?_⟩
    · intro name
      rw [contains_iff_mem_nativeNames, mem_nativeNames_ofNames]
    · rw [nativeNames_ofNames]
      exact Names.pairwise_sorted natives
    · intro o ho
      exact (isFirstFree_of_mem_ofNames h ho).renames
    · intro o ho
      exact isFirstFree_of_mem_ofNames h ho
    · intro o ho
      obtain ⟨-, -, hfree, -⟩ := isFirstFree_of_mem_ofNames h ho
      exact hfree.2.2
  · intro others hothers
    rw [ofNames, ofNames, Names.sorted_congr hothers]

/-- Two clashes in a row, a keyword and a repetition, in any order. -/
theorem isNaming_ofNames_of_clashes :
    IsNaming [("FooKind" : Text), "type", "Foo", "FooKindHandle", "Foo"]
        (ofNames [("FooKind" : Text), "type", "Foo", "FooKindHandle", "Foo"]) ∧
      ∀ others, (∀ name, name ∈ others ↔
          name ∈ [("FooKind" : Text), "type", "Foo", "FooKindHandle", "Foo"]) →
        ofNames others = ofNames [("FooKind" : Text), "type", "Foo", "FooKindHandle", "Foo"] :=
  isNaming_ofNames (by decide)

example : ((ofNames [("FooKind" : Text), "type", "Foo", "FooKindHandle", "Foo"]).entries.map
    (·.handle)) = [("Foo" : Text), "FooKindHandle", "FooKindHandleHandle", "typeHandle"] := by
  decide +kernel

end HeaderBindings.OpaqueTypes
