import HeaderBindings.OpaqueTypes
import HeaderBindings.Proofs.Names

/-!
# Sets of opaque types

A set of opaque types is kept as the list of its entries, in strictly increasing order of their
native names.  An insert keeps it so, wherever the new entry belongs, and adds nothing if the
native name is there already.  So after any sequence of inserts an entry is found under its own
native name, and it is the first one that was inserted with that name (`isInserted_insertAll`).

When a set is built from native names, aliases are chosen one after another, so an entry depends
on the entries before it.  Its native name does not: the native names of the set are the names it
was built from, sorted.
-/

namespace HeaderBindings.OpaqueTypes

variable {s : OpaqueTypes} {o : OpaqueType} {name : Text}

/-! ## 1. Native names -/

/-- The native names, in increasing order. -/
def nativeNames (s : OpaqueTypes) : List Text := s.entries.map (·.name)

theorem map_name_assign (taken names : List Text) :
    (assign taken names).map (·.name) = names := by
  induction names generalizing taken with
  | nil => rfl
  | cons name names ih => rw [assign, List.map_cons, ih]

theorem nativeNames_ofNames (names : List Text) :
    (ofNames names).nativeNames = Names.sorted names :=
  map_name_assign _ _

theorem mem_nativeNames_ofNames {names : List Text} :
    name ∈ (ofNames names).nativeNames ↔ name ∈ names := by
  rw [nativeNames_ofNames, Names.mem_sorted]

theorem get?_eq_some (h : s.get? name = some o) : o ∈ s.entries ∧ o.name = name :=
  ⟨List.mem_of_find?_eq_some h, by simpa using List.find?_some h⟩

theorem contains_iff_mem_nativeNames : s.contains name = true ↔ name ∈ s.nativeNames := by
  rw [contains, get?, List.find?_isSome, nativeNames, List.mem_map]
  simp

/-- In an increasing set every entry is found under its native name. -/
theorem mem_entries_iff (h : s.nativeNames.Pairwise (· < ·)) :
    o ∈ s.entries ↔ s.get? o.name = some o := by
  refine ⟨fun ho => ?_, fun hget => (get?_eq_some hget).1⟩
  have hfound : s.contains o.name = true :=
    contains_iff_mem_nativeNames.2 (List.mem_map_of_mem ho)
  obtain ⟨e, hget⟩ := Option.isSome_iff_exists.1 hfound
  obtain ⟨he, hname⟩ := get?_eq_some hget
  have hnodup : (s.entries.map (·.name)).Nodup := Names.nodup_of_pairwise_lt h
  rw [hget, List.inj_on_of_nodup_map hnodup he ho hname]

/-! ## 2. One insert -/

theorem insert_of_contains (h : s.contains o.name = true) : s.insert o = (false, s) := by
  rw [insert, if_pos h]

theorem insert_of_not_contains (h : s.contains o.name = false) :
    s.insert o = (true, ⟨insertEntry o s.entries⟩) := by
  rw [insert, if_neg (by simp [h])]

theorem fst_insert (s : OpaqueTypes) (o : OpaqueType) : (s.insert o).1 = !s.contains o.name := by
  cases h : s.contains o.name with
  | true => rw [insert_of_contains h]; rfl
  | false => rw [insert_of_not_contains h]; rfl

theorem map_name_insertEntry (o : OpaqueType) (es : List OpaqueType) :
    (insertEntry o es).map (·.name) = Names.insert o.name (es.map (·.name)) := by
  induction es with
  | nil => rfl
  | cons e es ih =>
    rw [insertEntry, List.map_cons, Names.insert]
    split
    · rfl
    · split
      · rfl
      · rw [List.map_cons, ih]

/-- **An insert keeps the order.** -/
theorem pairwise_nativeNames_insert (h : s.nativeNames.Pairwise (· < ·)) (o : OpaqueType) :
    (s.insert o).2.nativeNames.Pairwise (· < ·) := by
  cases ho : s.contains o.name with
  | true => rwa [insert_of_contains ho]
  | false =>
    rw [insert_of_not_contains ho, nativeNames, map_name_insertEntry]
    exact Names.pairwise_insert h

theorem find?_name_cons (o : OpaqueType) (es : List OpaqueType) (name : Text) :
    (o :: es).find? (·.name = name) =
      if o.name = name then some o else es.find? (·.name = name) := by
  split
  · rename_i hname
    exact List.find?_cons_of_pos (decide_eq_true hname)
  · rename_i hname
    exact List.find?_cons_of_neg (by simpa using hname)

theorem find?_insertEntry {es : List OpaqueType} (h : ∀ e ∈ es, e.name ≠ o.name) (name : Text) :
    (insertEntry o es).find? (·.name = name) = (o :: es).find? (·.name = name) := by
  induction es with
  | nil => rfl
  | cons e es ih =>
    have he : e.name ≠ o.name := h e List.mem_cons_self
    have hrest := ih fun f hf => h f (List.mem_cons_of_mem e hf)
    rw [insertEntry, if_neg he.symm]
    split
    · rfl
    · simp only [find?_name_cons, hrest]
      by_cases hname : o.name = name
      · have hother : e.name ≠ name := hname ▸ he
        simp only [if_pos hname, if_neg hother]
      · simp only [if_neg hname]

theorem name_ne_of_not_contains (h : s.contains o.name = false) :
    ∀ e ∈ s.entries, e.name ≠ o.name := by
  intro e he hname
  rw [← Bool.not_eq_true, contains_iff_mem_nativeNames] at h
  exact h (hname ▸ List.mem_map_of_mem he)

/-- **An insert adds its entry if there is none under the name**, and changes nothing else. -/
theorem get?_insert (s : OpaqueTypes) (o : OpaqueType) (name : Text) :
    (s.insert o).2.get? name = (s.get? name).or (if o.name = name then some o else none) := by
  cases ho : s.contains o.name with
  | true =>
    rw [insert_of_contains ho]
    split
    · rename_i hname
      obtain ⟨e, he⟩ := Option.isSome_iff_exists.1 ho
      rw [← hname, he, Option.some_or]
    · rw [Option.or_none]
  | false =>
    rw [insert_of_not_contains ho, get?, find?_insertEntry (name_ne_of_not_contains ho),
      find?_name_cons]
    split
    · rename_i hname
      have hnone : s.get? name = none := by
        rwa [← hname, ← Option.not_isSome_iff_eq_none, Bool.not_eq_true]
      rw [hnone, Option.none_or]
    · rw [Option.or_none, get?]

theorem contains_insert (s : OpaqueTypes) (o : OpaqueType) (name : Text) :
    (s.insert o).2.contains name = (s.contains name || decide (o.name = name)) := by
  rw [contains, contains, get?_insert, Option.isSome_or]
  split <;> simp [*]

theorem length_insertEntry {es : List OpaqueType} (h : ∀ e ∈ es, e.name ≠ o.name) :
    (insertEntry o es).length = es.length + 1 := by
  induction es with
  | nil => rfl
  | cons e es ih =>
    have he : e.name ≠ o.name := h e List.mem_cons_self
    have hrest := ih fun f hf => h f (List.mem_cons_of_mem e hf)
    rw [insertEntry]
    split
    · rfl
    · rw [if_neg he.symm, List.length_cons, hrest, List.length_cons]

theorem size_insert (s : OpaqueTypes) (o : OpaqueType) :
    (s.insert o).2.size = s.size + [(s.insert o).1].count true := by
  cases ho : s.contains o.name with
  | true =>
    rw [insert_of_contains ho]
    rfl
  | false =>
    rw [insert_of_not_contains ho]
    exact length_insertEntry (name_ne_of_not_contains ho)

/-! ## 3. Sequences of inserts -/

/-- One insert after another: what each of them says, and the set in the end. -/
def insertAll (s : OpaqueTypes) : List OpaqueType → List Bool × OpaqueTypes
  | [] => ([], s)
  | o :: os =>
    ((s.insert o).1 :: ((s.insert o).2.insertAll os).1, ((s.insert o).2.insertAll os).2)

theorem ofList_eq_insertAll (os : List OpaqueType) : ofList os = (empty.insertAll os).2 := by
  have hfold : ∀ s : OpaqueTypes,
      os.foldl (fun s o => (s.insert o).2) s = (s.insertAll os).2 := by
    induction os with
    | nil => exact fun _ => rfl
    | cons o os ih => exact fun s => ih (s.insert o).2
  exact hfold empty

theorem pairwise_nativeNames_insertAll (h : s.nativeNames.Pairwise (· < ·))
    (os : List OpaqueType) : (s.insertAll os).2.nativeNames.Pairwise (· < ·) := by
  induction os generalizing s with
  | nil => exact h
  | cons o os ih => exact ih (pairwise_nativeNames_insert h o)

/-- What was there stays, and of what is inserted the first one under a name is added. -/
theorem get?_insertAll (s : OpaqueTypes) (os : List OpaqueType) (name : Text) :
    (s.insertAll os).2.get? name = (s.get? name).or (os.find? (·.name = name)) := by
  induction os generalizing s with
  | nil => exact (Option.or_none).symm
  | cons o os ih =>
    rw [insertAll, ih, get?_insert, Option.or_assoc, find?_name_cons]
    split
    · rw [Option.some_or]
    · rw [Option.none_or]

theorem size_insertAll (s : OpaqueTypes) (os : List OpaqueType) :
    (s.insertAll os).2.size = s.size + (s.insertAll os).1.count true := by
  induction os generalizing s with
  | nil => rfl
  | cons o os ih =>
    rw [insertAll, ih, size_insert, Nat.add_assoc, ← List.count_append, List.singleton_append]

/-- An insert says that it added its entry, if the name was neither in the set nor inserted
    before. -/
theorem fst_insertAll (s : OpaqueTypes) (os : List OpaqueType) :
    (s.insertAll os).1 = os.mapIdx fun i o =>
      !s.contains o.name && decide (∀ e ∈ os.take i, e.name ≠ o.name) := by
  induction os generalizing s with
  | nil => rfl
  | cons o os ih =>
    have hfirst : decide (∀ e ∈ (o :: os).take 0, e.name ≠ o.name) = true :=
      decide_eq_true (List.forall_mem_nil _)
    rw [insertAll, ih, List.mapIdx_cons, fst_insert, hfirst, Bool.and_true]
    simp only [List.take_succ_cons, List.forall_mem_cons, contains_insert, Bool.not_or,
      Bool.decide_and, decide_not, Bool.and_assoc]

/-- Two increasing sets are equal if the same is found in them. -/
theorem eq_of_get? {t : OpaqueTypes} (hs : s.nativeNames.Pairwise (· < ·))
    (ht : t.nativeNames.Pairwise (· < ·)) (h : ∀ name, s.get? name = t.get? name) : s = t := by
  have hnames : s.nativeNames = t.nativeNames := by
    apply Names.eq_of_mem_iff hs ht
    intro name
    rw [← contains_iff_mem_nativeNames, ← contains_iff_mem_nativeNames, contains, contains, h]
  have hfound : ∀ {u : OpaqueTypes}, u.nativeNames.Pairwise (· < ·) →
      u.nativeNames.map u.get? = u.entries.map some := by
    intro u hu
    rw [nativeNames, List.map_map]
    exact List.map_congr_left fun o ho => (mem_entries_iff hu).1 ho
  have hentries : s.entries.map some = t.entries.map some := by
    rw [← hfound hs, ← hfound ht, hnames]
    exact List.map_congr_left fun name _ => h name
  cases s
  cases t
  exact congrArg mk (List.map_injective_iff.2 (fun _ _ => Option.some.inj) hentries)

/-- An increasing set is what its entries are inserted into. -/
theorem insertAll_entries (h : s.nativeNames.Pairwise (· < ·)) :
    (empty.insertAll s.entries).2 = s :=
  eq_of_get? (pairwise_nativeNames_insertAll List.Pairwise.nil s.entries) h fun name =>
    get?_insertAll empty s.entries name

/-- What the inserts of some opaque types into the empty set say, and the set that they leave. -/
structure IsInserted (os : List OpaqueType) (answers : List Bool) (s : OpaqueTypes) : Prop where
  /-- The entries are listed by native names, each of which is there once. -/
  increasing : s.nativeNames.Pairwise (· < ·)
  /-- The entries are what is found, each under its own native name. -/
  keyed : ∀ o, o ∈ s.entries ↔ s.get? o.name = some o
  /-- Under a name the first that was inserted with it is found. -/
  first : ∀ name, s.get? name = os.find? (·.name = name)
  contains : ∀ name, s.contains name = true ↔ ∃ o, s.get? name = some o
  /-- An insert succeeds if no earlier one had its native name. -/
  succeeds : answers = os.mapIdx fun i o => decide (∀ e ∈ os.take i, e.name ≠ o.name)
  size : s.size = answers.count true
  /-- A further insert succeeds if its native name is absent, and has no effect otherwise. -/
  further : ∀ o, ((s.insert o).1 = true ↔ s.contains o.name = false) ∧
    ((s.insert o).1 = false → (s.insert o).2 = s)

/-- **Every set is sorted and keeps what was inserted first.**  This holds after every sequence
    of inserts; the set that is built of a list at once is the one they leave; and a set that is
    built from native names is left by such a sequence, too. -/
theorem isInserted_insertAll :
    (∀ os : List OpaqueType,
      IsInserted os (empty.insertAll os).1 (empty.insertAll os).2 ∧
        ofList os = (empty.insertAll os).2) ∧
      ∀ natives : List Text, ∃ os, ofNames natives = (empty.insertAll os).2 := by
  refine ⟨fun os => ⟨?_, ofList_eq_insertAll os⟩, fun natives => ?_⟩
  · have hincreasing := pairwise_nativeNames_insertAll (s := empty) List.Pairwise.nil os
    have hsize := size_insertAll empty os
    rw [show empty.size = 0 from rfl, Nat.zero_add] at hsize
    refine ⟨hincreasing, fun o => mem_entries_iff hincreasing, get?_insertAll empty os,
      fun name => Option.isSome_iff_exists, fst_insertAll empty os, hsize, fun o => ⟨?_, ?_⟩⟩
    · rw [fst_insert, Bool.not_eq_true']
    · rw [fst_insert, Bool.not_eq_false']
      exact fun ho => congrArg Prod.snd (insert_of_contains ho)
  · have hincreasing : (ofNames natives).nativeNames.Pairwise (· < ·) := by
      rw [nativeNames_ofNames]
      exact Names.pairwise_sorted natives
    exact ⟨(ofNames natives).entries, (insertAll_entries hincreasing).symm⟩

end HeaderBindings.OpaqueTypes
