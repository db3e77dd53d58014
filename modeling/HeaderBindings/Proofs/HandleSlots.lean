import HeaderBindings.Handle
import Mathlib.Algebra.BigOperators.Group.Finset.Piecewise
import Mathlib.Data.Fin.VecNotation
import Mathlib.Data.Fintype.Basic

/-!
# Handles in slots

A handle that is taken out of a slot is handed out, or it is stored in a slot again.  A
*ledger* keeps beside the slots the handles that were handed out and those that a store found
in its target.  An operation carries handles from one of these three to another and neither
loses nor copies any (`count_step`), whatever the slots hold, and also when a slot is moved to
itself.

So if no handle is in two slots in the beginning, then at all times each of them is in one
slot, or it was handed out once, or a store overwrote it, and only one of the three
(`isConserved_run`).  The absent handle is no object's and may be everywhere.
-/

namespace HeaderBindings.Slots

variable {kind : Text} {n : Nat}

/-! ## 1. Operations and what they leave behind -/

/-- A handle is taken out of a slot, or it is taken out and stored in a slot. -/
inductive Operation (n : Nat) where
  | take (slot : Fin n)
  | move (source target : Fin n)
  deriving DecidableEq, Repr

/-- The slots that an operation names. -/
def Operation.named : Operation n → List (Fin n)
  | take slot => [slot]
  | move source target => [source, target]

/-- The slots, and the handles that are no longer in one. -/
structure Ledger (kind : Text) (n : Nat) where
  slots : Slots kind n
  /-- The handles that were handed out, in order. -/
  handedOut : List (Handle kind)
  /-- What the stores found in their targets, in order. -/
  overwritten : List (Handle kind)

namespace Ledger

def start (s : Slots kind n) : Ledger kind n := ⟨s, [], []⟩

def step (l : Ledger kind n) : Operation n → Ledger kind n
  | .take slot =>
    ⟨(l.slots.take slot).2, l.handedOut ++ [(l.slots.take slot).1], l.overwritten⟩
  | .move source target =>
    -- the target is looked at when the source is empty already
    ⟨l.slots.move source target, l.handedOut,
      l.overwritten ++ [(l.slots.take source).2 target]⟩

def run (l : Ledger kind n) (ops : List (Operation n)) : Ledger kind n := ops.foldl step l

theorem run_cons (l : Ledger kind n) (op : Operation n) (ops : List (Operation n)) :
    l.run (op :: ops) = (l.step op).run ops := rfl

end Ledger

/-! ## 2. Counting -/

theorem store_self (s : Slots kind n) (i : Fin n) (h : Handle kind) : s.store i h i = h :=
  if_pos rfl

theorem store_of_ne (s : Slots kind n) {i j : Fin n} (hne : j ≠ i) (h : Handle kind) :
    s.store i h j = s j := if_neg hne

/-- The slots that hold a handle. -/
def places (s : Slots kind n) (h : Handle kind) : Finset (Fin n) :=
  Finset.univ.filter fun i => s i = h

theorem mem_places {s : Slots kind n} {h : Handle kind} {i : Fin n} :
    i ∈ s.places h ↔ s i = h := by simp [places]

theorem exists_slot_iff {s : Slots kind n} {h : Handle kind} :
    (∃ i, s i = h) ↔ 0 < (s.places h).card := by
  rw [Finset.card_pos]
  exact exists_congr fun i => mem_places.symm

/-- A store puts one handle into the place of another one. -/
theorem card_places_store (s : Slots kind n) (i : Fin n) (g h : Handle kind) :
    ((s.store i g).places h).card + (if s i = h then 1 else 0) =
      (s.places h).card + (if g = h then 1 else 0) := by
  have hothers : ∑ j ∈ Finset.univ.erase i, (if s.store i g j = h then 1 else 0) =
      ∑ j ∈ Finset.univ.erase i, (if s j = h then 1 else 0) := by
    apply Finset.sum_congr rfl
    intro j hj
    rw [store_of_ne s (Finset.ne_of_mem_erase hj)]
  have hafter := Finset.add_sum_erase Finset.univ
    (fun j => if s.store i g j = h then 1 else 0) (Finset.mem_univ i)
  have hbefore := Finset.add_sum_erase Finset.univ
    (fun j => if s j = h then 1 else 0) (Finset.mem_univ i)
  simp only [store_self] at hafter
  rw [places, places, Finset.card_filter, Finset.card_filter]
  omega

/-- No handle is in two slots. -/
def IsDistinct (s : Slots kind n) : Prop := ∀ i j, s i ≠ .absent → s i = s j → i = j

instance (s : Slots kind n) : Decidable s.IsDistinct :=
  inferInstanceAs (Decidable (∀ i j, s i ≠ .absent → s i = s j → i = j))

theorem isDistinct_iff {s : Slots kind n} :
    s.IsDistinct ↔ ∀ h, h ≠ .absent → (s.places h).card ≤ 1 := by
  constructor
  · intro hs h hh
    rw [Finset.card_le_one]
    intro i hi j hj
    obtain rfl := mem_places.1 hi
    exact hs i j hh (mem_places.1 hj).symm
  · intro hs i j hi hij
    have hone := Finset.card_le_one.1 (hs (s i) hi)
    exact hone i (mem_places.2 rfl) j (mem_places.2 hij.symm)

namespace Ledger

variable {h : Handle kind}

/-- How often a handle is in a slot, was handed out or was overwritten. -/
def count (l : Ledger kind n) (h : Handle kind) : Nat :=
  (l.slots.places h).card + l.handedOut.count h + l.overwritten.count h

theorem count_concat (hs : List (Handle kind)) (g h : Handle kind) :
    (hs ++ [g]).count h = hs.count h + if g = h then 1 else 0 := by
  rw [List.count_append, List.count_singleton]
  simp only [beq_iff_eq]

/-- **An operation neither loses nor copies a handle.** -/
theorem count_step (hh : h ≠ .absent) (l : Ledger kind n) (op : Operation n) :
    (l.step op).count h = l.count h := by
  cases op with
  | take slot =>
    have htaken := card_places_store l.slots slot .absent h
    have hout := count_concat l.handedOut (l.slots slot) h
    rw [if_neg hh.symm] at htaken
    simp only [count, step, Slots.take, Handle.take]
    omega
  | move source target =>
    have htaken := card_places_store l.slots source .absent h
    have hstored := card_places_store (l.slots.store source .absent) target (l.slots source) h
    have hover := count_concat l.overwritten (l.slots.store source .absent target) h
    rw [if_neg hh.symm] at htaken
    simp only [count, step, Slots.move, Slots.take, Handle.take]
    omega

theorem count_run (hh : h ≠ .absent) (l : Ledger kind n) (ops : List (Operation n)) :
    (l.run ops).count h = l.count h := by
  induction ops generalizing l with
  | nil => rfl
  | cons op ops ih => rw [run_cons, ih, count_step hh]

section
variable {l : Ledger kind n} (hone : ∀ h, h ≠ .absent → l.count h ≤ 1)
include hone

/-- A handle that is counted once is in one slot at most. -/
theorem isDistinct_slots : l.slots.IsDistinct := by
  rw [isDistinct_iff]
  intro h hh
  have := hone h hh
  unfold count at this
  omega

theorem count_handedOut_le (hh : h ≠ .absent) : l.handedOut.count h ≤ 1 := by
  have := hone h hh
  unfold count at this
  omega

theorem notMem_handedOut {i : Fin n} (hi : l.slots i ≠ .absent) : l.slots i ∉ l.handedOut := by
  intro hmem
  have hheld := exists_slot_iff.1 ⟨i, (rfl : l.slots i = l.slots i)⟩
  have hhanded := List.count_pos_iff.2 hmem
  have := hone _ hi
  unfold count at this
  omega

end

/-! ## 3. What a store overwrites -/

/-- In a run from the ledger, a store finds the handle in its target. -/
def Overwrites (l : Ledger kind n) (ops : List (Operation n)) (h : Handle kind) : Prop :=
  ∃ before source target after, ops = before ++ .move source target :: after ∧
    source ≠ target ∧ (l.run before).slots target = h

theorem overwrites_cons_iff {l : Ledger kind n} {op : Operation n} {ops : List (Operation n)} :
    l.Overwrites (op :: ops) h ↔
      (∃ source target, op = .move source target ∧ source ≠ target ∧ l.slots target = h) ∨
        (l.step op).Overwrites ops h := by
  constructor
  · rintro ⟨before, source, target, after, hops, hne, htarget⟩
    cases before with
    | nil =>
      obtain ⟨rfl, -⟩ := List.cons_eq_cons.1 hops
      exact Or.inl ⟨source, target, rfl, hne, htarget⟩
    | cons first before =>
      obtain ⟨rfl, rfl⟩ := List.cons_eq_cons.1 hops
      exact Or.inr ⟨before, source, target, after, rfl, hne, htarget⟩
  · rintro (⟨source, target, rfl, hne, htarget⟩ |
      ⟨before, source, target, after, rfl, hne, htarget⟩)
    · exact ⟨[], source, target, ops, rfl, hne, htarget⟩
    · exact ⟨op :: before, source, target, after, rfl, hne, htarget⟩

theorem mem_overwritten_step (hh : h ≠ .absent) {l : Ledger kind n} {op : Operation n} :
    h ∈ (l.step op).overwritten ↔ h ∈ l.overwritten ∨
      ∃ source target, op = .move source target ∧ source ≠ target ∧ l.slots target = h := by
  cases op with
  | take slot => simp [step]
  | move source target =>
    have htarget : h = (l.slots.take source).2 target ↔
        source ≠ target ∧ l.slots target = h := by
      by_cases hsame : source = target
      · -- the handle that was there is the one that is stored
        subst hsame
        have habsent : (l.slots.take source).2 source = .absent := store_self l.slots source _
        rw [habsent]
        exact iff_of_false hh fun hmoved => hmoved.1 rfl
      · have hkept : (l.slots.take source).2 target = l.slots target :=
          store_of_ne l.slots (Ne.symm hsame) _
        rw [hkept, eq_comm]
        exact (and_iff_right hsame).symm
    simp [step, htarget]

theorem mem_overwritten_run (hh : h ≠ .absent) {l : Ledger kind n} {ops : List (Operation n)} :
    h ∈ (l.run ops).overwritten ↔ h ∈ l.overwritten ∨ l.Overwrites ops h := by
  induction ops generalizing l with
  | nil =>
    have hnone : ¬ l.Overwrites [] h := by
      rintro ⟨before, source, target, after, hops, -⟩
      cases before <;> cases hops
    rw [or_iff_left hnone]
    rfl
  | cons op ops ih =>
    rw [run_cons, ih, mem_overwritten_step hh, overwrites_cons_iff, or_assoc]

end Ledger

/-! ## 4. Conservation -/

/-- What an operation does: the named slots and the handles handed out change as it says, and
    the other slots stay as they are. -/
structure Operation.IsEffect (op : Operation n) (l l' : Ledger kind n) : Prop where
  frame : ∀ i, i ∉ op.named → l'.slots i = l.slots i
  take : ∀ slot, op = .take slot →
    l'.slots slot = .absent ∧ l'.handedOut = l.handedOut ++ [l.slots slot]
  move : ∀ source target, op = .move source target →
    l'.slots target = l.slots source ∧ (source ≠ target → l'.slots source = .absent) ∧
      l'.handedOut = l.handedOut

theorem Operation.isEffect_step (op : Operation n) (l : Ledger kind n) :
    op.IsEffect l (l.step op) := by
  constructor
  · intro i hi
    cases op with
    | take slot => exact store_of_ne _ (by simpa [named] using hi) _
    | move source target =>
      simp only [named, List.mem_cons, List.not_mem_nil, or_false, not_or] at hi
      exact (store_of_ne _ hi.2 _).trans (store_of_ne _ hi.1 _)
  · rintro slot rfl
    exact ⟨store_self _ _ _, rfl⟩
  · rintro source target rfl
    refine ⟨store_self _ _ _, ?_, rfl⟩
    intro hne
    exact (store_of_ne _ hne _).trans (store_self _ _ _)

/-- Where the handles are when some operations have made the ledger of the slots. -/
structure IsConserved (s : Slots kind n) (l : Ledger kind n) (ops : List (Operation n)) :
    Prop where
  /-- No handle is in two slots. -/
  held_once : l.slots.IsDistinct
  /-- No handle was handed out twice. -/
  handed_once : ∀ h, h ≠ .absent → l.handedOut.count h ≤ 1
  /-- No handle is in a slot that was handed out. -/
  held_or_handed : ∀ i, l.slots i ≠ .absent → l.slots i ∉ l.handedOut
  /-- The handles in slots and those handed out are the ones of the beginning, without those
      that a store has overwritten. -/
  lost_iff : ∀ h, h ≠ .absent → (((∃ i, l.slots i = h) ∨ h ∈ l.handedOut) ↔
    (∃ i, s i = h) ∧ ¬ (Ledger.start s).Overwrites ops h)
  /-- Every further operation does what it says, and nothing else. -/
  effect : ∀ op : Operation n, op.IsEffect l (l.step op)

/-- **Handles are conserved.**  If no handle is in two slots in the beginning, then after every
    sequence of operations each handle of the beginning is in one slot and was not handed out,
    or was handed out once and is in no slot, or was overwritten and is neither.  Since a part
    of a sequence is a sequence too, this holds at all times. -/
theorem isConserved_run {s : Slots kind n} (hs : s.IsDistinct) (ops : List (Operation n)) :
    IsConserved s ((Ledger.start s).run ops) ops := by
  have hover : ∀ h, h ≠ .absent → (h ∈ ((Ledger.start s).run ops).overwritten ↔
      (Ledger.start s).Overwrites ops h) := by
    intro h hh
    rw [Ledger.mem_overwritten_run hh]
    exact or_iff_right List.not_mem_nil
  have hcount : ∀ h, h ≠ .absent →
      ((Ledger.start s).run ops).count h = (s.places h).card :=
    fun h hh => Ledger.count_run hh (Ledger.start s) ops
  generalize (Ledger.start s).run ops = l at hover hcount ⊢
  have hone : ∀ h, h ≠ .absent → l.count h ≤ 1 := by
    intro h hh
    rw [hcount h hh]
    exact isDistinct_iff.1 hs h hh
  refine ⟨Ledger.isDistinct_slots hone, fun h hh => Ledger.count_handedOut_le hone hh,
    fun i hi => Ledger.notMem_handedOut hone hi, fun h hh => ?_, fun op => op.isEffect_step l⟩
  have htotal := hcount h hh
  have hsingle := hone h hh
  unfold Ledger.count at htotal hsingle
  rw [exists_slot_iff, exists_slot_iff, ← hover h hh, ← List.count_pos_iff,
    ← List.count_pos_iff]
  omega

/-- A slot is moved to itself, a handle is overwritten by another one, which is taken out, and
    an empty slot is taken out. -/
theorem isConserved_run_of_overwriting :
    IsDistinct (![⟨7⟩, ⟨8⟩, ⟨0⟩, ⟨0⟩] : Slots "ModelKind" 4) ∧
      IsConserved (![⟨7⟩, ⟨8⟩, ⟨0⟩, ⟨0⟩] : Slots "ModelKind" 4)
        ((Ledger.start ![⟨7⟩, ⟨8⟩, ⟨0⟩, ⟨0⟩]).run
          [.move 0 0, .move 0 1, .take 1, .take 1, .move 3 2])
        [.move 0 0, .move 0 1, .take 1, .take 1, .move 3 2] :=
  ⟨by decide, isConserved_run (by decide) _⟩

end HeaderBindings.Slots
