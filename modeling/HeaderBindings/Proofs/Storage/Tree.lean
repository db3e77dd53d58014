import HeaderBindings.Proofs.Storage.FileView
import HeaderBindings.Storage.Tree

/-!
# A file tree is a faithful file system

A file of a `FileTree` is a place in the tree, and a path names the place at which it would
be written (`FileTree.view`).  The main statements are that what is written in a tree is stored
there and nothing else changes (`FileTree.isFaithful`), and that no write depends on octets
(`FileTree.ignoresBytes`).

Both rest on what a path is resolved by.  On its way it passes directories only, and writing a
file neither makes nor removes one.
-/

namespace HeaderBindings.FileTree

/-! ## 1. Looking up a place -/

theorem lookup_put (t : FileTree) {l : Location} (hl : l ≠ []) (n : Node) (l' : Location) :
    (t.put l n).lookup l' = if l' = l then some n else t.lookup l' := by
  unfold lookup put
  by_cases hroot : l' = []
  · have hne : l' ≠ l := fun h => hl (h.symm.trans hroot)
    rw [if_pos hroot, if_neg hne, if_pos hroot]
  · rw [if_neg hroot, if_neg hroot]
    by_cases heq : l' = l
    · subst heq
      simp
    · have hne : ¬ l = l' := fun h => heq h.symm
      rw [if_neg heq, List.find?_cons_of_neg (by simpa using hne), List.find?_filter]
      congr 2
      funext e
      by_cases he : e.1 = l'
      · simp [he, heq]
      · simp [he]

theorem isDirAt_root (t : FileTree) : t.isDirAt [] = true := rfl

theorem ne_nil_of_not_isDirAt {t : FileTree} {l : Location} (h : t.isDirAt l = false) :
    l ≠ [] := by
  rintro rfl
  rw [isDirAt_root] at h
  cases h

theorem isSome_of_isDirAt {t : FileTree} {l : Location} (h : t.isDirAt l = true) :
    (t.lookup l).isSome = true := by
  have h : t.lookup l = some .dir := by simpa [isDirAt] using h
  rw [h]
  rfl

/-- Writing a file where there is no directory makes no directory and removes none. -/
theorem isDirAt_put_file {t : FileTree} {l : Location} (h : t.isDirAt l = false) (c : Bytes)
    (l' : Location) : (t.put l (.file c)).isDirAt l' = t.isDirAt l' := by
  unfold isDirAt
  rw [lookup_put t (ne_nil_of_not_isDirAt h)]
  by_cases heq : l' = l
  · subst heq
    rw [isDirAt] at h
    rw [if_pos rfl, h]
    rfl
  · rw [if_neg heq]

/-! ## 2. The way to a directory -/

theorem walk_cons (t : FileTree) (l : Location) (name : Text) (names : List Text) :
    t.walk l (name :: names) = t.step l name >>= fun l' => t.walk l' names := List.foldlM_cons

theorem walk_singleton (t : FileTree) (l : Location) (name : Text) :
    t.walk l [name] = t.step l name := by
  rw [walk_cons]
  cases t.step l name <;> rfl

theorem walk_append (t : FileTree) (l : Location) (names names' : List Text) :
    t.walk l (names ++ names') = t.walk l names >>= fun l' => t.walk l' names' :=
  List.foldlM_append

/-- A step starts at a directory. -/
theorem isDirAt_of_step {t : FileTree} {l l' : Location} {name : Text}
    (h : t.step l name = .ok l') : t.isDirAt l = true := by
  cases hdir : t.isDirAt l with
  | true => rfl
  | false =>
    rw [step, hdir] at h
    cases h

/-- A step to a directory can be taken in every tree that has the directories of the first. -/
theorem step_mono {t t' : FileTree} (hdirs : ∀ l, t.isDirAt l = true → t'.isDirAt l = true)
    {l l' : Location} {name : Text} (h : t.step l name = .ok l') (hl' : t.isDirAt l' = true) :
    t'.step l name = .ok l' := by
  have hdir := isDirAt_of_step h
  have hsome := isSome_of_isDirAt (hdirs l' hl')
  rw [step, hdir] at h
  rw [step, hdirs l hdir]
  revert h
  simp only [Bool.not_true, Bool.false_eq_true, if_false]
  split
  · exact id
  · split
    · exact id
    · split
      · exact id
      · split
        · intro h
          cases h
          rw [if_pos hsome]
        · intro h
          cases h

/-- The way to a directory leads through directories only. -/
theorem walk_mono {t t' : FileTree} (hdirs : ∀ l, t.isDirAt l = true → t'.isDirAt l = true)
    {names : List Text} {l l' : Location} (h : t.walk l names = .ok l')
    (hl' : t.isDirAt l' = true) : t'.walk l names = .ok l' := by
  induction names generalizing l with
  | nil => exact h
  | cons name names ih =>
    rw [walk_cons] at h ⊢
    cases hstep : t.step l name with
    | error fault =>
      rw [hstep] at h
      cases h
    | ok l₁ =>
      rw [hstep] at h
      have hrest : t.walk l₁ names = .ok l' := h
      -- the place behind the first component is the last one, or a step starts there
      have hl₁ : t.isDirAt l₁ = true := by
        cases names with
        | nil =>
          cases hrest
          exact hl'
        | cons name' names =>
          rw [walk_cons] at hrest
          cases hstep' : t.step l₁ name' with
          | error fault =>
            rw [hstep'] at hrest
            cases hrest
          | ok l₂ => exact isDirAt_of_step hstep'
      rw [step_mono hdirs hstep hl₁]
      exact ih hrest

/-! ## 3. Where a file is written -/

/-- The place `l` is an entry of a directory, and the path `p` leads through directories to
    it.  There is no directory at the place itself. -/
structure IsTarget (t : FileTree) (p : Path) (l : Location) (r : Route) (dir : Location)
    (name : Text) : Prop where
  route : t.route p = .ok r
  last : r.last = some name
  walk : t.walk r.start r.before = .ok dir
  isDir : t.isDirAt dir = true
  isName : name ≠ "." ∧ name ≠ ".."
  no_slash : r.endsInSlash = false
  short : name.utf8.length ≤ maxName
  not_isDir : t.isDirAt l = false
  place : l = dir ++ [name]

theorem parentOf_eq_ok_iff {t : FileTree} {r : Route} {dir : Location} :
    t.parentOf r = .ok dir ↔ t.walk r.start r.before = .ok dir ∧ t.isDirAt dir = true := by
  rw [parentOf]
  cases t.walk r.start r.before with
  | error fault => simp [bind, Except.bind]
  | ok l =>
    simp only [bind, Except.bind, Except.ok.injEq]
    split
    · rename_i hdir
      constructor
      · intro h
        cases h
        exact ⟨rfl, hdir⟩
      · rintro ⟨rfl, -⟩
        rfl
    · rename_i hdir
      constructor
      · intro h
        cases h
      · rintro ⟨rfl, h⟩
        exact absurd h hdir

theorem fileTarget_eq_ok_iff {t : FileTree} {p : Path} {l : Location} :
    t.fileTarget p = .ok l ↔ ∃ r dir name, IsTarget t p l r dir name := by
  constructor
  · intro h
    rw [fileTarget] at h
    cases hr : t.route p with
    | error fault =>
      rw [hr] at h
      cases h
    | ok r =>
      rw [hr] at h
      simp only [bind, Except.bind] at h
      cases hlast : r.last with
      | none =>
        rw [hlast] at h
        cases h
      | some name =>
        rw [hlast] at h
        cases hparent : t.parentOf r with
        | error fault =>
          rw [hparent] at h
          cases h
        | ok dir =>
          rw [hparent] at h
          obtain ⟨hwalk, hdir⟩ := parentOf_eq_ok_iff.1 hparent
          simp only at h
          split at h
          · cases h
          · split at h
            · cases h
            · split at h
              · cases h
              · rename_i hname hshort hl
                cases h
                rw [not_or, not_or] at hname
                exact ⟨r, dir, name, hr, hlast, hwalk, hdir, ⟨hname.1, hname.2.1⟩,
                  Bool.not_eq_true _ ▸ hname.2.2, Nat.le_of_not_lt hshort,
                  Bool.not_eq_true _ ▸ hl, rfl⟩
  · rintro ⟨r, dir, name, h⟩
    have hparent := parentOf_eq_ok_iff.2 ⟨h.walk, h.isDir⟩
    have hname : ¬ (name = ("." : Text) ∨ name = (".." : Text) ∨ r.endsInSlash = true) := by
      rintro (hn | hn | hn)
      · exact h.isName.1 hn
      · exact h.isName.2 hn
      · rw [h.no_slash] at hn
        cases hn
    have hl : ¬ t.isDirAt (dir ++ [name]) = true := by
      rw [← h.place, h.not_isDir]
      exact Bool.false_ne_true
    rw [fileTarget, h.route]
    simp only [bind, Except.bind, h.last, hparent]
    rw [if_neg hname, if_neg (Nat.not_lt.2 h.short), if_neg hl, h.place]

section
variable {t : FileTree} {p : Path} {l : Location} {r : Route} {dir : Location} {name : Text}

/-- What is read at a path that names a file is what the file holds. -/
theorem IsTarget.read_eq (h : IsTarget t p l r dir name) :
    t.read p = match t.lookup l with
      | some (.file c) => .ok c
      | _ => .error .notFound := by
  have hstep : t.step dir name =
      if (t.lookup l).isSome then .ok l else .error .notFound := by
    rw [step, h.isDir, Bool.not_true, if_neg Bool.false_ne_true, if_neg h.isName.1,
      if_neg h.isName.2, if_neg (Nat.not_lt.2 h.short), ← h.place]
  have hwalk : t.walk r.start (r.before ++ r.last.toList) =
      if (t.lookup l).isSome then .ok l else .error .notFound := by
    rw [walk_append, h.walk, h.last, Option.toList_some, ← hstep]
    exact walk_singleton t dir name
  have hresolve : t.resolve p = if (t.lookup l).isSome then .ok l else .error .notFound := by
    rw [resolve, h.route]
    simp only [bind, Except.bind, hwalk, h.no_slash]
    cases (t.lookup l).isSome <;> rfl
  have hdir := h.not_isDir
  rw [isDirAt] at hdir
  rw [read, hresolve]
  cases hl : t.lookup l with
  | none => rfl
  | some n =>
    cases n with
    | dir =>
      rw [hl] at hdir
      cases hdir
    | file c =>
      simp only [Option.isSome_some, if_true, bind, Except.bind]
      rw [hl]

/-- A path leads to the same place in every tree with the same directories. -/
theorem IsTarget.congr {t' : FileTree} (h : IsTarget t p l r dir name)
    (hwork : t'.workDir = t.workDir) (hdirs : ∀ l, t'.isDirAt l = t.isDirAt l) :
    IsTarget t' p l r dir name where
  route := by
    rw [← h.route, FileTree.route, FileTree.route, hwork]
  last := h.last
  walk := walk_mono (fun l hl => (hdirs l).trans hl) h.walk h.isDir
  isDir := (hdirs dir).trans h.isDir
  isName := h.isName
  no_slash := h.no_slash
  short := h.short
  not_isDir := (hdirs l).trans h.not_isDir
  place := h.place

end

/-- A file that is written is put at the place to which its path leads. -/
theorem write_eq_ok_iff {t t' : FileTree} {p : Path} {c : Bytes} :
    t.write p c = (.ok (), t') ↔ ∃ l, t.fileTarget p = .ok l ∧ t.put l (.file c) = t' := by
  rw [write]
  cases t.fileTarget p with
  | error fault => simp
  | ok l => simp

theorem write_eq_error_iff {t t' : FileTree} {p : Path} {c : Bytes} {fault : Fault} :
    t.write p c = (.error fault, t') ↔ t.fileTarget p = .error fault ∧ t = t' := by
  rw [write]
  cases t.fileTarget p with
  | error fault => simp
  | ok l => simp

theorem not_isDirAt_of_fileTarget {t : FileTree} {p : Path} {l : Location}
    (h : t.fileTarget p = .ok l) : t.isDirAt l = false := by
  obtain ⟨r, dir, name, h⟩ := fileTarget_eq_ok_iff.1 h
  exact h.not_isDir

/-- Paths lead to the same places when a file is written. -/
theorem fileTarget_put {t : FileTree} {q : Path} {l l' : Location}
    (hdir : t.isDirAt l = false) (h : t.fileTarget q = .ok l') (c : Bytes) :
    (t.put l (.file c)).fileTarget q = .ok l' := by
  obtain ⟨r, dir, name, h⟩ := fileTarget_eq_ok_iff.1 h
  exact fileTarget_eq_ok_iff.2 ⟨r, dir, name, h.congr rfl (isDirAt_put_file hdir c)⟩

/-! ## 4. The files of a tree -/

def contents (t : FileTree) (l : Location) : Option Bytes :=
  match t.lookup l with
  | some (.file c) => some c
  | _ => none

/-- What is put where no directory is changes the file there, and no other file. -/
theorem contents_put_file {t : FileTree} {l : Location} (h : t.isDirAt l = false) (c : Bytes)
    (l' : Location) :
    (t.put l (.file c)).contents l' = if l' = l then some c else t.contents l' := by
  rw [contents, contents, lookup_put t (ne_nil_of_not_isDirAt h)]
  by_cases heq : l' = l
  · rw [if_pos heq, if_pos heq]
  · rw [if_neg heq, if_neg heq]

/-- The files of a tree are their places. -/
def view : FileView FileTree where
  File := Location
  contents := contents
  named t p := (t.fileTarget p).toOption

theorem named_ne {t : FileTree} {p q : Path}
    (h : (t.fileTarget p).toOption ≠ (t.fileTarget q).toOption) :
    view.named t p ≠ view.named t q := h

theorem named_eq_some_iff {t : FileTree} {p : Path} {l : Location} :
    view.named t p = some l ↔ t.fileTarget p = .ok l := by
  show (t.fileTarget p).toOption = some l ↔ _
  cases t.fileTarget p with
  | error fault => simp [Except.toOption]
  | ok l' => simp [Except.toOption]

/-- Reading at a path that names a file reads the file. -/
theorem read_eq_ok_iff {t : FileTree} {p : Path} {l : Location} {c : Bytes}
    (h : t.fileTarget p = .ok l) : t.read p = .ok c ↔ t.contents l = some c := by
  obtain ⟨r, dir, name, h⟩ := fileTarget_eq_ok_iff.1 h
  rw [h.read_eq, contents]
  split <;> simp

/-- Where nothing is, a directory can be made without a change of any file. -/
theorem contents_put_dir {t : FileTree} {l : Location} (h : t.lookup l = none) (l' : Location) :
    (t.put l .dir).contents l' = t.contents l' := by
  have hl : l ≠ [] := by
    rintro rfl
    cases h
  rw [contents, contents, lookup_put t hl]
  by_cases heq : l' = l
  · subst heq
    rw [if_pos rfl, h]
  · rw [if_neg heq]

theorem lookup_of_dirTarget {t : FileTree} {p : Path} {l : Location}
    (h : t.dirTarget p = .ok l) : t.lookup l = none := by
  rw [dirTarget] at h
  cases hr : t.route p with
  | error fault =>
    rw [hr] at h
    cases h
  | ok r =>
    rw [hr] at h
    simp only [bind, Except.bind] at h
    cases hlast : r.last with
    | none =>
      rw [hlast] at h
      cases h
    | some name =>
      rw [hlast] at h
      cases hparent : t.parentOf r with
      | error fault =>
        rw [hparent] at h
        cases h
      | ok dir =>
        rw [hparent] at h
        simp only at h
        split at h
        · cases h
        · split at h
          · cases h
          · split at h
            · cases h
            · rename_i hfree
              cases h
              simpa using hfree

theorem contents_createDir (t : FileTree) (p : Path) :
    (t.createDir p).2.contents = t.contents := by
  rw [createDir]
  cases h : t.dirTarget p with
  | error fault => rfl
  | ok l => exact funext (contents_put_dir (lookup_of_dirTarget h))

theorem contents_ensureDir (t : FileTree) (p : Path) :
    (t.ensureDir p).2.contents = t.contents := by
  have h := contents_createDir t p
  rw [ensureDir]
  split
  · rename_i heq
    rwa [heq] at h
  · rename_i heq
    rw [heq] at h
    split <;> exact h

/-- Directories are made one by one, and none of them takes the place of a file. -/
theorem contents_ensureChain (t : FileTree) (ps : List Path) :
    (t.ensureChain ps).2.contents = t.contents := by
  induction ps generalizing t with
  | nil => rfl
  | cons p above ih =>
    have h := contents_createDir t p
    rw [ensureChain]
    split
    · rfl
    · split
      · rename_i heq
        rwa [heq] at h
      · rename_i t₁ heq
        rw [heq] at h
        have habove := ih t₁
        split
        · rename_i t₂ heq'
          rw [heq'] at habove
          exact (contents_ensureDir t₂ p).trans (habove.trans h)
        · rename_i t₂ heq'
          rw [heq'] at habove
          exact habove.trans h
      · rename_i heq
        rw [heq] at h
        split <;> exact h

/-- **A file tree is a faithful file system.** -/
theorem isFaithful : view.IsFaithful where
  read_state h := (Prod.ext_iff.1 h).2.symm
  contents_read hf h := (read_eq_ok_iff (named_eq_some_iff.1 hf)).1 (Prod.ext_iff.1 h).1
  contents_createDirs {t t' p r} h := by
    obtain ⟨-, rfl⟩ := Prod.ext_iff.1 h
    exact contents_ensureChain t (Path.ancestors p)
  contents_fault h := by
    obtain ⟨-, rfl⟩ := write_eq_error_iff.1 h
    rfl
  contents_write {t t' p c} h := by
    obtain ⟨l, hl, rfl⟩ := write_eq_ok_iff.1 h
    have hput := contents_put_file (not_isDirAt_of_fileTarget hl) c
    refine ⟨l, named_eq_some_iff.2 hl, (hput l).trans (if_pos rfl), ?_⟩
    intro l' hne
    exact (hput l').trans (if_neg hne)
  named_write {t t' p q c r l'} h hq := by
    cases r with
    | error fault =>
      obtain ⟨-, rfl⟩ := write_eq_error_iff.1 h
      exact hq
    | ok _ =>
      obtain ⟨l, hl, rfl⟩ := write_eq_ok_iff.1 h
      exact named_eq_some_iff.2
        (fileTarget_put (not_isDirAt_of_fileTarget hl) (named_eq_some_iff.1 hq) c)
  read_write {t t' p c} h := by
    obtain ⟨l, hl, rfl⟩ := write_eq_ok_iff.1 h
    have hdir := not_isDirAt_of_fileTarget hl
    apply (read_eq_ok_iff (fileTarget_put hdir hl c)).2
    exact (contents_put_file hdir c l).trans (if_pos rfl)
  read_frame {t t' p q c d l'} h hq hne hread := by
    obtain ⟨l, hl, rfl⟩ := write_eq_ok_iff.1 h
    have hdir := not_isDirAt_of_fileTarget hl
    have hq := named_eq_some_iff.1 hq
    have hne : l' ≠ l := by
      rintro rfl
      exact hne ((named_eq_some_iff.2 hl).trans (named_eq_some_iff.2 hq).symm)
    apply (read_eq_ok_iff (fileTarget_put hdir hq c)).2
    have hkept := (contents_put_file hdir c l').trans (if_neg hne)
    exact hkept.trans ((read_eq_ok_iff hq).1 hread)

/-! ## 5. Trees of one shape -/

/-- Two trees that differ in nothing but the octets of their files. -/
structure SameShape (t t' : FileTree) : Prop where
  workDir : t.workDir = t'.workDir
  isDirAt (l : Location) : t.isDirAt l = t'.isDirAt l
  isSome_lookup (l : Location) : (t.lookup l).isSome = (t'.lookup l).isSome

theorem SameShape.refl (t : FileTree) : SameShape t t := ⟨rfl, fun _ => rfl, fun _ => rfl⟩

theorem SameShape.fileTarget_eq {t t' : FileTree} (h : SameShape t t') (p : Path) :
    t.fileTarget p = t'.fileTarget p := by
  have hstep : t.step = t'.step := by
    funext l name
    rw [step, step, h.isDirAt, h.isSome_lookup]
  have hroute : t.route p = t'.route p := by
    rw [route, route, h.workDir]
  have hparent : t.parentOf = t'.parentOf := by
    funext r
    rw [parentOf, parentOf, walk, walk, hstep]
    congr 1
    funext l
    rw [h.isDirAt]
  rw [fileTarget, fileTarget, hroute, hparent]
  congr 1
  funext r
  cases r.last with
  | none => rfl
  | some name =>
    simp only
    congr 1
    funext l
    rw [h.isDirAt]

/-- Writing at one path, whatever is written, ends alike and keeps the shape. -/
theorem SameShape.write {t t' : FileTree} (h : SameShape t t') (p : Path) (c c' : Bytes) :
    (t.write p c).1 = (t'.write p c').1 ∧ SameShape (t.write p c).2 (t'.write p c').2 := by
  rw [FileTree.write, FileTree.write, ← h.fileTarget_eq p]
  cases hl : t.fileTarget p with
  | error fault => exact ⟨rfl, h⟩
  | ok l =>
    obtain ⟨r, dir, name, htarget⟩ := fileTarget_eq_ok_iff.1 hl
    have hdir := htarget.not_isDir
    have hdir' : t'.isDirAt l = false := (h.isDirAt l).symm.trans hdir
    refine ⟨rfl, h.workDir, fun l' => ?_, fun l' => ?_⟩
    · rw [isDirAt_put_file hdir, isDirAt_put_file hdir', h.isDirAt]
    · rw [lookup_put t (ne_nil_of_not_isDirAt hdir), lookup_put t' (ne_nil_of_not_isDirAt hdir)]
      split
      · rfl
      · exact h.isSome_lookup l'

theorem SameShape.outcomes_eq {t t' : FileTree} (h : SameShape t t')
    {writes writes' : List (Path × Bytes)} (hw : writes.map Prod.fst = writes'.map Prod.fst) :
    Files.outcomes t writes = Files.outcomes t' writes' := by
  induction writes generalizing t t' writes' with
  | nil =>
    cases writes' with
    | nil => rfl
    | cons w writes' => cases hw
  | cons w writes ih =>
    cases writes' with
    | nil => cases hw
    | cons w' writes' =>
      obtain ⟨p, c⟩ := w
      obtain ⟨p', c'⟩ := w'
      rw [List.map_cons, List.map_cons, List.cons.injEq] at hw
      obtain ⟨rfl, hw⟩ := hw
      obtain ⟨hout, hshape⟩ := h.write p c c'
      show (t.write p c).1 :: Files.outcomes (t.write p c).2 writes =
        (t'.write p c').1 :: Files.outcomes (t'.write p c').2 writes'
      rw [hout, ih hshape hw]

/-- **No write to a file tree depends on octets.** -/
theorem ignoresBytes : IgnoresBytes FileTree :=
  fun t _ _ hw => (SameShape.refl t).outcomes_eq hw

end HeaderBindings.FileTree
