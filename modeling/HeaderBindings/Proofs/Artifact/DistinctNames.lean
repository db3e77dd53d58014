import HeaderBindings.Proofs.Artifact.Extracted
import Mathlib.Data.List.Count

/-!
# Generated names do not collide

Names are made distinct before they are escaped, and escaping is not injective: `2d` and
`_2d`, or `self` and `self_`, are escaped alike.  It can be undone, though, in names that
bear none of its marks (`unescape_escape`): no `#`, and no underscore at either end.

* A method stem has no underscore at all and no `#`.
* Snake case puts underscores between characters only, and a suffix ends in a digit.  The
  empty name alone would begin with the underscore of its suffix; but of distinct method
  stems one at most is empty, and it gets none (`isUnmarked_of_mem_fieldStems`).

Hence `nodup_names_extract`: the methods, and the fields of the function table, have
pairwise distinct names.
-/

namespace HeaderBindings

open Identifier

namespace Identifier

/-! ## 1. Escaping undone -/

/-- A name without the marks of escaping. -/
structure IsUnmarked (name : Text) : Prop where
  hash : '#' ∉ name
  first : name.head? ≠ some '_'
  last : name.getLast? ≠ some '_'

theorem isUnmarked_of_notMem {name : Text} (hhash : '#' ∉ name) (hunder : '_' ∉ name) :
    IsUnmarked name := by
  refine ⟨hhash, ?_, ?_⟩
  · intro h
    exact hunder (List.mem_of_head? h)
  · intro h
    exact hunder (List.mem_of_getLast? h)

/-- The name without the mark that escaping has left. -/
def unescape (name : Text) : Text :=
  if name.head? = some '_' then name.tail
  else if '#' ∈ name then name.drop 2
  else if name.getLast? = some '_' then name.dropLast
  else name

/-- **Escaping can be undone** in a name without its marks. -/
theorem unescape_escape {name : Text} (h : IsUnmarked name) : unescape (escape name) = name := by
  unfold escape
  split
  · -- a digit: the mark is in front
    rfl
  · split
    · -- a path keyword: the mark is behind
      rename_i hpath
      have hne : name ≠ [] := by
        rintro rfl
        revert hpath
        decide
      have hfirst : (name ++ ['_']).head? = name.head? := List.head?_append_of_ne_nil _ hne
      have hhash : '#' ∉ name ++ ['_'] := by simpa using h.hash
      show unescape (name ++ ['_']) = name
      rw [unescape, hfirst, if_neg h.first, if_neg hhash,
        if_pos List.getLast?_concat, List.dropLast_concat]
    · split
      · -- a keyword
        rfl
      · rw [unescape, if_neg h.first, if_neg h.hash, if_neg h.last]

theorem nodup_map_escape {names : List Text} (hnodup : names.Nodup)
    (h : ∀ name ∈ names, IsUnmarked name) : (names.map escape).Nodup := by
  refine List.Nodup.map_on ?_ hnodup
  intro a ha b hb hab
  rw [← unescape_escape (h a ha), hab, unescape_escape (h b hb)]

/-! ## 2. Snake case -/

/-- **Snake case brings in no mark.** -/
theorem isUnmarked_snakeCase {name : Text} (hhash : '#' ∉ name) (hunder : '_' ∉ name) :
    IsUnmarked (snakeCase name) := by
  refine ⟨?_, head?_snakeCase_ne hunder, getLast?_snakeFrom_ne hunder none⟩
  intro hmem
  exact hhash (mem_of_mem_snakeFrom_of_ascii hmem (by decide) (by decide) (by decide))

end Identifier

namespace Artifact

/-! ## 3. Suffixes -/

theorem suffixed_ne_nil {base : Text} (h : base ≠ []) (k : Nat) : suffixed base k ≠ [] := by
  unfold suffixed
  split
  · exact h
  · simp

theorem isUnmarked_suffixed {base : Text} (h : IsUnmarked base) (hne : base ≠ []) (k : Nat) :
    IsUnmarked (suffixed base k) := by
  unfold suffixed
  split
  · exact h
  · have hdigits : Text.ofNat (k + 1) ≠ [] := Nat.toDigits_ne_nil
    refine ⟨?_, ?_, ?_⟩
    · intro hmem
      rcases List.mem_append.1 hmem with hmem | hmem
      · rcases List.mem_append.1 hmem with hmem | hmem
        · exact h.hash hmem
        · revert hmem
          decide
      · exact absurd (Text.isDigit_of_mem_ofNat hmem) (by decide)
    · rw [List.append_assoc, List.head?_append_of_ne_nil _ hne]
      exact h.first
    · rw [List.getLast?_append_of_ne_nil _ hdigits]
      intro hlast
      exact absurd (Text.isDigit_of_mem_ofNat (List.mem_of_getLast? hlast)) (by decide)

/-- A name that is not taken gets no suffix. -/
theorem fresh_of_notMem {seen : List Text} {base : Text} (h : base ∉ seen) :
    fresh seen base = base := by
  have hzero : leastBelow (seen.length + 1) (fun k => suffixed base k ∉ seen) = 0 := by
    by_contra hpos
    have hfirst := not_passes_of_lt_leastBelow (Nat.pos_of_ne_zero hpos)
    exact of_decide_eq_false hfirst h
  rw [fresh, hzero]
  rfl

/-- If the empty name is there once at most, it gets no suffix. -/
theorem eq_nil_or_suffixed_of_mem_uniqueFrom {seen names : List Text}
    (hseen : [] ∈ seen → [] ∉ names) (hcount : names.count [] ≤ 1) {name : Text}
    (h : name ∈ uniqueFrom seen names) :
    name = [] ∨ ∃ base ∈ names, base ≠ [] ∧ ∃ k, name = suffixed base k := by
  induction names generalizing seen with
  | nil => cases h
  | cons base rest ih =>
    rcases List.mem_cons.1 h with rfl | h
    · by_cases hbase : base = []
      · subst hbase
        exact Or.inl (fresh_of_notMem fun hmem => hseen hmem List.mem_cons_self)
      · exact Or.inr ⟨base, List.mem_cons_self, hbase, _, rfl⟩
    · have hseen' : [] ∈ fresh seen base :: seen → [] ∉ rest := by
        intro hmem hrest
        rcases List.mem_cons.1 hmem with hfresh | hmem
        · have hbase : base = [] := by
            by_contra hne
            exact suffixed_ne_nil hne _ hfresh.symm
          rw [hbase, List.count_cons_self] at hcount
          have := List.count_pos_iff.2 hrest
          omega
        · exact hseen hmem (List.mem_cons_of_mem _ hrest)
      have hcount' : rest.count [] ≤ 1 := List.count_le_count_cons.trans hcount
      rcases ih hseen' hcount' h with h | ⟨b, hb, hne, k, hk⟩
      · exact Or.inl h
      · exact Or.inr ⟨b, List.mem_cons_of_mem _ hb, hne, k, hk⟩

/-! ## 4. Fields -/

/-- The stems of functions that can be told apart after escaping, too. -/
structure HasPlainStems (fs : List Function) : Prop where
  nodup : (fs.map (·.stem)).Nodup
  hash : ∀ f ∈ fs, '#' ∉ f.stem
  underscore : ∀ f ∈ fs, '_' ∉ f.stem

theorem count_nil_map_snakeCase_le {stems : List Text} (h : stems.Nodup) :
    (stems.map snakeCase).count [] ≤ 1 := by
  have hcount : (stems.map snakeCase).count [] = stems.count [] := by
    rw [List.count_eq_countP, List.countP_map, List.count_eq_countP]
    apply List.countP_congr
    intro stem _
    simp [snakeCase_eq_nil_iff]
  rw [hcount]
  exact List.nodup_iff_count_le_one.1 h []

theorem isUnmarked_of_mem_fieldStems {fs : List Function} (hfs : HasPlainStems fs)
    {name : Text} (h : name ∈ fieldStems fs) : IsUnmarked name := by
  have hcount := count_nil_map_snakeCase_le hfs.nodup
  rw [List.map_map] at hcount
  have hseen : ([] : Text) ∈ ([] : List Text) → [] ∉ fs.map fun f => snakeCase f.stem :=
    fun hmem => absurd hmem List.not_mem_nil
  rcases eq_nil_or_suffixed_of_mem_uniqueFrom hseen hcount h with rfl | ⟨b, hb, hne, k, rfl⟩
  · exact isUnmarked_of_notMem List.not_mem_nil List.not_mem_nil
  · obtain ⟨f, hf, rfl⟩ := List.mem_map.1 hb
    exact isUnmarked_suffixed (isUnmarked_snakeCase (hfs.hash f hf) (hfs.underscore f hf)) hne k

theorem nodup_tableFields {fs : List Function} (hfs : HasPlainStems fs) :
    (tableFields fs).Nodup :=
  nodup_map_escape (nodup_unique _) fun _ h => isUnmarked_of_mem_fieldStems hfs h

theorem nodup_methodNames {fs : List Function} (hfs : HasPlainStems fs) :
    (fs.map methodName).Nodup := by
  have hmap : fs.map methodName = (fs.map (·.stem)).map escape := by
    rw [List.map_map]
    rfl
  rw [hmap]
  apply nodup_map_escape hfs.nodup
  intro stem hstem
  obtain ⟨f, hf, rfl⟩ := List.mem_map.1 hstem
  exact isUnmarked_of_notMem (hfs.hash f hf) (hfs.underscore f hf)

end Artifact

/-! ## 5. Extracted functions -/

theorem Conventions.hasPlainStems_extract (x : Conventions) (header : Text) :
    Artifact.HasPlainStems (x.extract header).declarations.functions := by
  refine ⟨(nodup_stems_kept_claimStems [] _).1, ?_, ?_⟩
  · intro f hf hhash
    obtain ⟨found, hfound, rfl⟩ := exists_prototype_of_mem_functions hf
    obtain ⟨⟨-, hword⟩, -⟩ := Header.isName_of_mem_matchesFrom hfound
    exact absurd (hword _ (mem_of_mem_methodStem hhash)) (by decide +kernel)
  · intro f hf hunder
    obtain ⟨found, -, rfl⟩ := exists_prototype_of_mem_functions hf
    simpa using (List.mem_filter.1 hunder).2

/-- **Generated names do not collide.**  Whatever the header and the conventions are, the
    methods of the extracted functions have pairwise distinct names, and so have the fields
    of the function table, of which there is one for each function. -/
theorem nodup_names_extract (x : Conventions) (header : Text) :
    ((x.extract header).declarations.functions.map Artifact.methodName).Nodup ∧
      (Artifact.tableFields (x.extract header).declarations.functions).Nodup ∧
      (Artifact.tableFields (x.extract header).declarations.functions).length =
        (x.extract header).declarations.functions.length := by
  have hstems := x.hasPlainStems_extract header
  exact ⟨Artifact.nodup_methodNames hstems, Artifact.nodup_tableFields hstems,
    Artifact.length_tableFields _⟩

end HeaderBindings
