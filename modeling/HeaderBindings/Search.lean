/-!
# The least free candidate

Names are made unique by trying one candidate after another.  Since only finitely
many names are taken, some candidate below a known bound is free, and the search
for the least one is a search in a finite range.
-/

namespace HeaderBindings

/-- The least number below the bound that passes, or the bound if none does. -/
def leastBelow (bound : Nat) (passes : Nat → Bool) : Nat :=
  ((List.range bound).find? passes).getD bound

theorem not_passes_of_lt_leastBelow {bound : Nat} {passes : Nat → Bool} {k : Nat}
    (h : k < leastBelow bound passes) : passes k = false := by
  unfold leastBelow at h
  cases hf : (List.range bound).find? passes with
  | none =>
    rw [hf, Option.getD_none] at h
    have := List.find?_eq_none.1 hf k (List.mem_range.2 h)
    simpa using this
  | some n =>
    rw [hf, Option.getD_some] at h
    have := (List.find?_range_eq_some.1 hf).2.2 k h
    simpa using this

theorem passes_leastBelow {bound : Nat} {passes : Nat → Bool}
    (h : ∃ k < bound, passes k = true) :
    passes (leastBelow bound passes) = true ∧ leastBelow bound passes < bound := by
  obtain ⟨k, hk, hp⟩ := h
  unfold leastBelow
  cases hf : (List.range bound).find? passes with
  | none =>
    have := List.find?_eq_none.1 hf k (List.mem_range.2 hk)
    simp [hp] at this
  | some n =>
    obtain ⟨hn, hm, _⟩ := List.find?_range_eq_some.1 hf
    exact ⟨hn, by simpa using hm⟩

end HeaderBindings
