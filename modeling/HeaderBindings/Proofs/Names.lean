import HeaderBindings.Names
import Mathlib.Data.List.Nodup
import Mathlib.Data.List.Perm.Basic

/-!
# Sorted names stand for sets

Sorting makes a list of names strictly increasing in the order of code points, and a
strictly increasing list is determined by its members.  So what is computed from sorted
names depends on the set of the names only, neither on their order nor on repetitions
(`sorted_congr`).
-/

namespace HeaderBindings.Names

theorem lt_of_not_lt {a b : Text} (hlt : ¬ a < b) (hne : a ≠ b) : b < a := by
  by_contra h
  exact hne (List.le_antisymm (List.not_lt.1 h) (List.not_lt.1 hlt))

theorem pairwise_insert {name : Text} {ns : List Text} (h : ns.Pairwise (· < ·)) :
    (insert name ns).Pairwise (· < ·) := by
  induction ns with
  | nil => exact List.pairwise_singleton _ _
  | cons n ns ih =>
    obtain ⟨hn, hns⟩ := List.pairwise_cons.1 h
    unfold insert
    split
    · -- the name comes first
      rename_i hlt
      refine List.pairwise_cons.2 ⟨?_, h⟩
      intro x hx
      rcases List.mem_cons.1 hx with rfl | hx
      · exact hlt
      · exact List.lt_trans hlt (hn x hx)
    · rename_i hlt
      split
      · exact h
      · rename_i hne
        refine List.pairwise_cons.2 ⟨?_, ih hns⟩
        intro x hx
        rcases mem_insert.1 hx with rfl | hx
        · exact lt_of_not_lt hlt hne
        · exact hn x hx

/-- **Sorted names are strictly increasing.** -/
theorem pairwise_sorted (names : List Text) : (sorted names).Pairwise (· < ·) := by
  induction names with
  | nil => exact List.Pairwise.nil
  | cons name names ih => exact pairwise_insert ih

theorem nodup_of_pairwise_lt {ns : List Text} (h : ns.Pairwise (· < ·)) : ns.Nodup := by
  refine h.imp ?_
  rintro a b hlt rfl
  exact List.lt_irrefl a hlt

/-- A strictly increasing list is determined by its members. -/
theorem eq_of_mem_iff {a b : List Text} (ha : a.Pairwise (· < ·)) (hb : b.Pairwise (· < ·))
    (h : ∀ x, x ∈ a ↔ x ∈ b) : a = b := by
  have hperm : a.Perm b :=
    (List.perm_ext_iff_of_nodup (nodup_of_pairwise_lt ha) (nodup_of_pairwise_lt hb)).2 h
  refine hperm.eq_of_pairwise ?_ ha hb
  intro x y _ _ hxy hyx
  exact absurd hyx (List.lt_asymm hxy)

/-- **The sorted names depend on the set of the names only.** -/
theorem sorted_congr {a b : List Text} (h : ∀ x, x ∈ a ↔ x ∈ b) : sorted a = sorted b := by
  refine eq_of_mem_iff (pairwise_sorted a) (pairwise_sorted b) fun x => ?_
  rw [mem_sorted, mem_sorted, h]

end HeaderBindings.Names
