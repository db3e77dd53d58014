import HeaderBindings.Artifact.UniqueNames
import HeaderBindings.Proofs.Search

/-!
# Unique names are distinct

The candidates for one name are pairwise distinct, so one of any `n + 1` of them is not
among `n` names that are taken.  The search for a fresh name therefore ends with one, and
names that are made unique have no repetition.
-/

namespace HeaderBindings

/-! ## 1. Candidates -/

theorem Text.ofNat_injective : Function.Injective Text.ofNat := by
  intro m n h
  have hm : Nat.ofDigitChars 10 (Text.ofNat m) 0 = m := Nat.ofDigitChars_ten_toDigits
  have hn : Nat.ofDigitChars 10 (Text.ofNat n) 0 = n := Nat.ofDigitChars_ten_toDigits
  rw [← hm, h, hn]

theorem Text.isDigit_of_mem_ofNat {n : Nat} {c : Char} (h : c ∈ Text.ofNat n) :
    c.isDigit = true :=
  Nat.isDigit_of_mem_toDigits (by decide) (by decide) h

namespace Artifact

theorem suffixed_injective (base : Text) : Function.Injective (suffixed base) := by
  intro i j h
  unfold suffixed at h
  split at h
  · split at h
    · omega
    · have := congrArg List.length h
      simp at this
  · split at h
    · have := congrArg List.length h
      simp at this
    · have hdigits := Text.ofNat_injective (List.append_cancel_left h)
      omega

theorem mem_suffixed {base : Text} {k : Nat} {c : Char} (h : c ∈ suffixed base k) :
    c ∈ base ∨ c = '_' ∨ c.isDigit = true := by
  unfold suffixed at h
  split at h
  · exact Or.inl h
  · rcases List.mem_append.1 h with h | h
    · rcases List.mem_append.1 h with h | h
      · exact Or.inl h
      · exact Or.inr (Or.inl (by simpa using h))
    · exact Or.inr (Or.inr (Text.isDigit_of_mem_ofNat h))

/-! ## 2. The search for a fresh name -/

theorem fresh_notMem (seen : List Text) (base : Text) : fresh seen base ∉ seen := by
  obtain ⟨k, hk, hfree⟩ := exists_lt_notMem_of_injective (suffixed_injective base) seen
  have hsome : ∃ k < seen.length + 1, decide (suffixed base k ∉ seen) = true :=
    ⟨k, hk, decide_eq_true hfree⟩
  exact of_decide_eq_true (passes_leastBelow hsome).1

/-! ## 3. Whole lists -/

theorem length_uniqueFrom (seen names : List Text) :
    (uniqueFrom seen names).length = names.length := by
  induction names generalizing seen with
  | nil => rfl
  | cons base rest ih => simp [uniqueFrom, ih]

theorem length_unique (names : List Text) : (unique names).length = names.length :=
  length_uniqueFrom [] names

theorem notMem_of_mem_uniqueFrom {seen names : List Text} {name : Text}
    (h : name ∈ uniqueFrom seen names) : name ∉ seen := by
  induction names generalizing seen with
  | nil => simp [uniqueFrom] at h
  | cons base rest ih =>
    rcases List.mem_cons.1 h with rfl | h
    · exact fresh_notMem seen base
    · intro hmem
      exact ih h (List.mem_cons_of_mem _ hmem)

theorem nodup_uniqueFrom (seen names : List Text) : (uniqueFrom seen names).Nodup := by
  induction names generalizing seen with
  | nil => exact List.nodup_nil
  | cons base rest ih =>
    refine List.nodup_cons.2 ⟨?_, ih _⟩
    intro hmem
    exact notMem_of_mem_uniqueFrom hmem List.mem_cons_self

theorem nodup_unique (names : List Text) : (unique names).Nodup := nodup_uniqueFrom [] names

/-- Every unique name is a candidate for one of the names. -/
theorem exists_suffixed_of_mem_uniqueFrom {seen names : List Text} {name : Text}
    (h : name ∈ uniqueFrom seen names) : ∃ base ∈ names, ∃ k, name = suffixed base k := by
  induction names generalizing seen with
  | nil => simp [uniqueFrom] at h
  | cons base rest ih =>
    rcases List.mem_cons.1 h with rfl | h
    · exact ⟨base, List.mem_cons_self, _, rfl⟩
    · obtain ⟨b, hb, k, hk⟩ := ih h
      exact ⟨b, List.mem_cons_of_mem _ hb, k, hk⟩

theorem mem_of_mem_unique {names : List Text} {name : Text} {c : Char}
    (hname : name ∈ unique names) (hc : c ∈ name) :
    (∃ base ∈ names, c ∈ base) ∨ c = '_' ∨ c.isDigit = true := by
  obtain ⟨base, hbase, k, rfl⟩ := exists_suffixed_of_mem_uniqueFrom hname
  rcases mem_suffixed hc with h | h
  · exact Or.inl ⟨base, hbase, h⟩
  · exact Or.inr h

end Artifact

end HeaderBindings
