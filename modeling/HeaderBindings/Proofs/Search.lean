import HeaderBindings.Search
import Mathlib.Data.List.Nodup
import Mathlib.Data.List.Perm.Subperm

/-!
# Candidates outnumber what is taken

Of candidates that are pairwise distinct, one of any `n + 1` is not among `n` names that
are taken.  This is what ends each search for a free candidate.
-/

namespace HeaderBindings

theorem exists_lt_notMem_of_injective {α : Type} {candidate : Nat → α}
    (h : Function.Injective candidate) (taken : List α) :
    ∃ k < taken.length + 1, candidate k ∉ taken := by
  by_contra hall
  push Not at hall
  have hsub : (List.range (taken.length + 1)).map candidate ⊆ taken := by
    intro x hx
    obtain ⟨k, hk, rfl⟩ := List.mem_map.1 hx
    exact hall k (List.mem_range.1 hk)
  have hnodup : ((List.range (taken.length + 1)).map candidate).Nodup :=
    List.nodup_range.map h
  have hlength := (List.subperm_of_subset hnodup hsub).length_le
  simp only [List.length_map, List.length_range] at hlength
  omega

end HeaderBindings
