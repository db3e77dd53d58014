import HeaderBindings.Declarations
import Mathlib.Data.List.Basic

/-!
# Claims to method stems

Functions claim their method stems in turn.  Every function makes one claim, in its own
place, and a claim is kept or counted as a duplicate.  A stem is held by the first function
that has it (`getElem_claimStems`).  So the functions that keep their stems are those that a
list without repeated stems keeps (`filterMap_kept_claimStems`): the ones that stand where
their stem occurs for the first time (`Conventions.functions_extract`).
-/

namespace HeaderBindings

/-! ## 1. Claims -/

theorem length_claimStems (holders fs : List Function) :
    (claimStems holders fs).length = fs.length := by
  induction fs generalizing holders with
  | nil => rfl
  | cons f fs ih =>
    unfold claimStems
    split
    · simp [ih]
    · simp [ih]

/-- Every claim is either kept as a function or counted as a duplicate. -/
theorem length_kept_add_duplicates (cs : List StemClaim) :
    (cs.filterMap StemClaim.kept?).length + cs.countP (·.holder.isSome) = cs.length := by
  induction cs with
  | nil => rfl
  | cons c cs ih =>
    obtain ⟨f, holder⟩ := c
    cases holder with
    | none =>
      have : StemClaim.kept? ⟨f, none⟩ = some f := rfl
      rw [List.filterMap_cons_some this, List.countP_cons_of_neg (by simp), List.length_cons,
        List.length_cons, ← ih]
      omega
    | some g =>
      have : StemClaim.kept? ⟨f, some g⟩ = none := rfl
      rw [List.filterMap_cons_none this, List.countP_cons_of_pos (by simp), List.length_cons,
        ← ih]
      omega

theorem map_function_claimStems (holders fs : List Function) :
    (claimStems holders fs).map (·.function) = fs := by
  induction fs generalizing holders with
  | nil => rfl
  | cons f fs ih =>
    unfold claimStems
    split
    · rw [List.map_cons, ih]
    · rw [List.map_cons, ih]

/-! ## 2. Functions that keep their stems -/

/-- Have two functions the same method stem? -/
def sameStem (f g : Function) : Bool := f.stem == g.stem

/-- The claims that are kept, when some functions hold their stems already. -/
theorem filterMap_kept_claimStems_of_holders (holders fs : List Function) :
    (claimStems holders fs).filterMap StemClaim.kept? =
      (fs.filter fun f => !holders.any (sameStem f)).eraseDupsBy sameStem := by
  induction fs generalizing holders with
  | nil => rfl
  | cons f fs ih =>
    have hholder : (holders.find? (·.stem = f.stem)).isSome = holders.any (sameStem f) := by
      rw [List.isSome_find?]
      apply congrArg (List.any holders)
      funext g
      rw [Bool.eq_iff_iff, sameStem, decide_eq_true_iff, beq_iff_eq]
      exact eq_comm
    unfold claimStems
    cases hfind : holders.find? (·.stem = f.stem) with
    | some g =>
      rw [hfind] at hholder
      have hnone : StemClaim.kept? ⟨f, some g⟩ = none := rfl
      rw [List.filterMap_cons_none hnone, ih, List.filter_cons_of_neg (by simp [← hholder])]
    | none =>
      rw [hfind] at hholder
      have hsome : StemClaim.kept? ⟨f, none⟩ = some f := rfl
      rw [List.filterMap_cons_some hsome, ih, List.filter_cons_of_pos (by simp [← hholder]),
        List.eraseDupsBy_cons, List.filter_filter]
      apply congrArg (f :: ·)
      apply congrArg (List.eraseDupsBy sameStem)
      apply List.filter_congr
      intro g _
      rw [List.any_append, List.any_cons, List.any_nil, Bool.or_false, Bool.not_or,
        Bool.and_comm]
      cases sameStem g f <;> rfl

/-- **The first of each stem is kept.** -/
theorem filterMap_kept_claimStems (fs : List Function) :
    (claimStems [] fs).filterMap StemClaim.kept? = fs.eraseDupsBy sameStem := by
  rw [filterMap_kept_claimStems_of_holders]
  apply congrArg (List.eraseDupsBy sameStem)
  rw [List.filter_eq_self]
  intro f _
  rfl

/-- The functions that keep their stems have new and pairwise distinct ones. -/
theorem nodup_stems_kept_claimStems (holders fs : List Function) :
    (((claimStems holders fs).filterMap StemClaim.kept?).map (·.stem)).Nodup ∧
      ∀ g ∈ holders,
        g.stem ∉ ((claimStems holders fs).filterMap StemClaim.kept?).map (·.stem) := by
  induction fs generalizing holders with
  | nil => exact ⟨List.nodup_nil, fun _ _ => List.not_mem_nil⟩
  | cons f fs ih =>
    unfold claimStems
    cases hfind : holders.find? (·.stem = f.stem) with
    | some g =>
      have hnone : StemClaim.kept? ⟨f, some g⟩ = none := rfl
      rw [List.filterMap_cons_none hnone]
      exact ih holders
    | none =>
      have hsome : StemClaim.kept? ⟨f, none⟩ = some f := rfl
      obtain ⟨hnodup, hnew⟩ := ih (holders ++ [f])
      rw [List.filterMap_cons_some hsome, List.map_cons]
      refine ⟨List.nodup_cons.2 ⟨hnew f (by simp), hnodup⟩, ?_⟩
      intro g hg hmem
      rcases List.mem_cons.1 hmem with heq | hmem
      · have := List.find?_eq_none.1 hfind g hg
        simp [heq] at this
      · exact hnew g (List.mem_append_left _ hg) hmem

/-- Of functions whose stems are distinct all are kept. -/
theorem eraseDupsBy_sameStem_of_pairwise {fs : List Function}
    (h : fs.Pairwise fun f g => sameStem g f = false) : fs.eraseDupsBy sameStem = fs := by
  induction fs with
  | nil => rfl
  | cons f fs ih =>
    obtain ⟨hf, hfs⟩ := List.pairwise_cons.1 h
    have hkeep : (fs.filter fun g => sameStem g f = false) = fs := by
      rw [List.filter_eq_self]
      intro g hg
      rw [hf g hg]
      rfl
    rw [List.eraseDupsBy_cons, hkeep, ih hfs]

/-! ## 3. Who holds a stem -/

/-- The functions that have kept their stems are as good as all functions so far when the first
    function with a stem is looked for. -/
theorem getElem_claimStems_of_holders {holders earlier : List Function}
    (h : ∀ stem, holders.find? (·.stem = stem) = earlier.find? (·.stem = stem))
    (fs : List Function) (i : Nat) (hi : i < fs.length) (hc : i < (claimStems holders fs).length) :
    (claimStems holders fs)[i] =
      ⟨fs[i], (earlier ++ fs.take i).find? (·.stem = fs[i].stem)⟩ := by
  induction fs generalizing holders earlier i with
  | nil => cases hi
  | cons f fs ih =>
    cases hfind : holders.find? (·.stem = f.stem) with
    | some g =>
      have hcons : claimStems holders (f :: fs) = ⟨f, some g⟩ :: claimStems holders fs := by
        rw [claimStems, hfind]
      -- a later function with the stem of `f` finds the holder of the stem and not `f`
      have hrest : ∀ stem, holders.find? (·.stem = stem) =
          (earlier ++ [f]).find? (·.stem = stem) := by
        intro stem
        rw [List.find?_append, h stem]
        by_cases hstem : f.stem = stem
        · rw [← hstem, ← h, hfind, Option.some_or]
        · rw [List.find?_singleton, if_neg (by simpa using hstem), Option.or_none]
      simp only [hcons]
      cases i with
      | zero => simp [← h, hfind]
      | succ i => simpa using ih hrest i (by simpa using hi) (by simpa [hcons] using hc)
    | none =>
      have hcons : claimStems holders (f :: fs) =
          ⟨f, none⟩ :: claimStems (holders ++ [f]) fs := by
        rw [claimStems, hfind]
      have hrest : ∀ stem, (holders ++ [f]).find? (·.stem = stem) =
          (earlier ++ [f]).find? (·.stem = stem) := by
        intro stem
        rw [List.find?_append, List.find?_append, h stem]
      simp only [hcons]
      cases i with
      | zero => simp [← h, hfind]
      | succ i => simpa using ih hrest i (by simpa using hi) (by simpa [hcons] using hc)

/-- **The first function with a stem holds it.** -/
theorem getElem_claimStems (fs : List Function) (i : Nat) (hi : i < fs.length)
    (hc : i < (claimStems [] fs).length) :
    (claimStems [] fs)[i] = ⟨fs[i], (fs.take i).find? (·.stem = fs[i].stem)⟩ :=
  getElem_claimStems_of_holders (fun _ => rfl) fs i hi hc

/-! ## 4. First places -/

/-- The places of a list at which a name occurs for the first time. -/
def firstPlaces {α : Type} (name : α → Text) (as : List α) : List (Fin as.length) :=
  (List.finRange as.length).filter fun i => ∀ j < i, name as[j] ≠ name as[i]

example : (firstPlaces id ["a", "b", "a", "c", "b", "a"]).map Fin.val = [0, 1, 3] := by decide

section FirstPlaces

variable {α : Type} (g : α → Function) (as : List α)

theorem claimStems_map : claimStems [] (as.map g) = (List.finRange as.length).map fun i =>
    ⟨g as[i], ((as.take i).map g).find? (·.stem = (g as[i]).stem)⟩ := by
  apply List.ext_getElem
  · rw [length_claimStems, List.length_map, List.length_map, List.length_finRange]
  · intro i hi hi'
    have hclaim := getElem_claimStems (as.map g) i (by rwa [length_claimStems] at hi) hi
    rw [hclaim, List.getElem_map, List.getElem_map, List.getElem_finRange, List.map_take]
    rfl

variable {g as} in
theorem find?_take_eq_none_iff {i : Fin as.length} :
    ((as.take i).map g).find? (·.stem = (g as[i]).stem) = none ↔
      ∀ j < i, (g as[j]).stem ≠ (g as[i]).stem := by
  rw [List.find?_eq_none]
  constructor
  · intro h j hj heq
    have hmem : as[j] ∈ as.take i := List.mem_take_iff_getElem.2 ⟨j, by omega, rfl⟩
    exact h _ (List.mem_map_of_mem hmem) (by simpa using heq)
  · intro h f hf heq
    obtain ⟨a, ha, rfl⟩ := List.mem_map.1 hf
    obtain ⟨j, hj, rfl⟩ := List.mem_take_iff_getElem.1 ha
    exact h ⟨j, by omega⟩ (by show j < i.val; omega) (by simpa using heq)

/-- **What stands at the first places is kept**, in the same order. -/
theorem filterMap_kept_claimStems_map :
    (claimStems [] (as.map g)).filterMap StemClaim.kept? =
      (firstPlaces (fun a => (g a).stem) as).map fun i => g as[i] := by
  rw [claimStems_map, List.filterMap_map, firstPlaces]
  conv_rhs => rw [← List.filterMap_eq_map, List.filterMap_filter]
  apply List.filterMap_congr
  intro i _
  simp only [← find?_take_eq_none_iff, Function.comp_apply, StemClaim.kept?]
  cases ((as.take i).map g).find? (·.stem = (g as[i]).stem) <;> rfl

end FirstPlaces

/-- **The first prototype wins, in the order of the header.**  The functions are made of the
    matched prototypes whose method stem no earlier one has; the others are the duplicates. -/
theorem Conventions.functions_extract (x : Conventions) (header : Text) :
    let ps := (Header.prototypes x.markers (Header.normalize header)).map (·.prototype)
    let ds := (x.extract header).declarations
    ds.functions = (firstPlaces (fun p => Identifier.methodStem p.name x.stripPrefix) ps).map
        (fun i => ps[i].function ds.opaqueTypes x.stripPrefix) ∧
      (ds.functions.map (·.stem)).Nodup ∧
      ds.functions.length + ds.duplicates = ps.length := by
  intro ps ds
  let g := fun p : Header.Prototype => p.function ds.opaqueTypes x.stripPrefix
  have hfunctions : ds.functions = (claimStems [] (ps.map g)).filterMap StemClaim.kept? := rfl
  have hduplicates : ds.duplicates = (claimStems [] (ps.map g)).countP (·.holder.isSome) := rfl
  refine ⟨?_, ?_, ?_⟩
  · rw [hfunctions]
    exact filterMap_kept_claimStems_map g ps
  · rw [hfunctions]
    exact (nodup_stems_kept_claimStems [] _).1
  · rw [hfunctions, hduplicates, length_kept_add_duplicates, length_claimStems, List.length_map]

end HeaderBindings
