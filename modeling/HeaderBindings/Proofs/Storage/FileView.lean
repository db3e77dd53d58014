import HeaderBindings.Storage.Access

/-!
# What is relied on of a file system

Runs are performed on any state `σ` of files that `FileAccess (StateM σ)` knows how to read
and to write.  What such a state holds is seen through a `FileView`: there are files, a file
holds octets or does not exist, and a path names at most one file.  Two paths may name the same
file.

Two properties are asked of a file system.

* `FileView.IsFaithful`: what is written is stored, nothing else changes, and an operation that
  fails changes no file.  A write may fail for any reason.
* `IgnoresBytes`: which writes of a row succeed depends on their paths, and not on the octets
  that are written.
-/

namespace HeaderBindings

section
variable {σ : Type} [FileAccess (StateM σ)]

namespace Files

def read (s : σ) (p : Path) : Except Fault Bytes × σ :=
  (FileAccess.read p : StateM σ (Except Fault Bytes)).run s

def createDirs (s : σ) (p : Path) : Except Fault Unit × σ :=
  (FileAccess.createDirs p : StateM σ (Except Fault Unit)).run s

def write (s : σ) (p : Path) (c : Bytes) : Except Fault Unit × σ :=
  (FileAccess.write p c : StateM σ (Except Fault Unit)).run s

/-- How some writes end that are carried out in turn, whether the earlier ones succeed or not. -/
def outcomes (s : σ) : List (Path × Bytes) → List (Except Fault Unit)
  | [] => []
  | (p, c) :: writes => (write s p c).1 :: outcomes (write s p c).2 writes

end Files

/-- How the files of a state are told apart and found. -/
structure FileView (σ : Type) where
  /-- The files, which remain themselves whatever paths lead to them. -/
  File : Type
  /-- What a file holds, if it exists. -/
  contents : σ → File → Option Bytes
  /-- The file that a path names, be it there already or made by the next write. -/
  named : σ → Path → Option File

namespace FileView

/-- Nothing but a write that succeeds changes a file, and it changes the file that its path
    names to what was written. -/
structure IsFaithful (v : FileView σ) : Prop where
  /-- Reading changes nothing. -/
  read_state {s s' : σ} {p : Path} {r : Except Fault Bytes} (h : Files.read s p = (r, s')) :
    s' = s
  /-- What is read is what the file holds. -/
  contents_read {s s' : σ} {p : Path} {f : v.File} {c : Bytes} (hf : v.named s p = some f)
    (h : Files.read s p = (.ok c, s')) : v.contents s f = some c
  /-- Creating directories changes no file, even if it fails half-way. -/
  contents_createDirs {s s' : σ} {p : Path} {r : Except Fault Unit}
    (h : Files.createDirs s p = (r, s')) : v.contents s' = v.contents s
  /-- A write that fails changes no file. -/
  contents_fault {s s' : σ} {p : Path} {c : Bytes} {fault : Fault}
    (h : Files.write s p c = (.error fault, s')) : v.contents s' = v.contents s
  /-- A write that succeeds changes the file that its path names. -/
  contents_write {s s' : σ} {p : Path} {c : Bytes} (h : Files.write s p c = (.ok (), s')) :
    ∃ f, v.named s p = some f ∧ v.contents s' f = some c ∧
      ∀ f', f' ≠ f → v.contents s' f' = v.contents s f'
  /-- Paths go on naming their files, whether a write succeeds or fails. -/
  named_write {s s' : σ} {p q : Path} {c : Bytes} {r : Except Fault Unit} {f : v.File}
    (h : Files.write s p c = (r, s')) (hf : v.named s q = some f) : v.named s' q = some f
  /-- What has been written can be read. -/
  read_write {s s' : σ} {p : Path} {c : Bytes} (h : Files.write s p c = (.ok (), s')) :
    (Files.read s' p).1 = .ok c
  /-- What can be read at a path is not changed by writing another file. -/
  read_frame {s s' : σ} {p q : Path} {c d : Bytes} {f : v.File}
    (h : Files.write s p c = (.ok (), s')) (hf : v.named s q = some f)
    (hne : v.named s p ≠ v.named s q) (hread : (Files.read s q).1 = .ok d) :
    (Files.read s' q).1 = .ok d

namespace IsFaithful

variable {v : FileView σ} {s s₁ s₂ : σ} {p q : Path} {c d : Bytes}

/-- What two files hold that are written one after the other, and that no other file has
    changed. -/
theorem write_write (hv : v.IsFaithful) (hp : Files.write s p c = (.ok (), s₁))
    (hq : Files.write s₁ q d = (.ok (), s₂)) :
    (Files.read s₂ q).1 = .ok d ∧
      ∃ f f', v.named s₂ p = some f ∧ v.named s₂ q = some f' ∧ v.contents s₂ f' = some d ∧
        (f ≠ f' → (Files.read s₂ p).1 = .ok c) ∧
        ∀ f'', f'' ≠ f → f'' ≠ f' → v.contents s₂ f'' = v.contents s f'' := by
  obtain ⟨f, hf, -, hframe⟩ := hv.contents_write hp
  obtain ⟨f', hf', hd, hframe'⟩ := hv.contents_write hq
  have hnamed := hv.named_write hp hf
  refine ⟨hv.read_write hq, f, f', hv.named_write hq hnamed, hv.named_write hq hf', hd, ?_, ?_⟩
  · intro hne
    apply hv.read_frame hq hnamed _ (hv.read_write hp)
    rw [hf', hnamed]
    exact fun h => hne (Option.some.inj h).symm
  · intro f'' hne hne'
    exact (hframe' f'' hne').trans (hframe f'' hne)

/-- What a file holds whose write is followed by a write that fails, and that no other file has
    changed. -/
theorem write_fault {fault : Fault} (hv : v.IsFaithful)
    (hp : Files.write s p c = (.ok (), s₁)) (hq : Files.write s₁ q d = (.error fault, s₂)) :
    ∃ f, v.named s₂ p = some f ∧ v.contents s₂ f = some c ∧
      ∀ f', f' ≠ f → v.contents s₂ f' = v.contents s f' := by
  obtain ⟨f, hf, hc, hframe⟩ := hv.contents_write hp
  have hnamed := hv.named_write hq (hv.named_write hp hf)
  rw [← hv.contents_fault hq] at hc hframe
  exact ⟨f, hnamed, hc, hframe⟩

end IsFaithful

end FileView

/-- Which writes of a row succeed, and how the others fail, depends on their paths only. -/
def IgnoresBytes (σ : Type) [FileAccess (StateM σ)] : Prop :=
  ∀ (s : σ) (writes writes' : List (Path × Bytes)),
    writes.map Prod.fst = writes'.map Prod.fst → Files.outcomes s writes = Files.outcomes s writes'

namespace IgnoresBytes

variable {s s₁ s₂ : σ} {p q : Path} {c d : Bytes} {r r' : Except Fault Unit}

theorem write (h : IgnoresBytes σ) (hp : Files.write s p c = (r, s₁)) (c' : Bytes) :
    ∃ s₁', Files.write s p c' = (r, s₁') := by
  have h := h s [(p, c)] [(p, c')] rfl
  simp only [Files.outcomes, List.cons.injEq, hp] at h
  exact ⟨_, Prod.ext h.1.symm rfl⟩

/-- The outcome of a write depends neither on its octets nor on those of the write before. -/
theorem write_write (h : IgnoresBytes σ) (hp : Files.write s p c = (r, s₁))
    (hq : Files.write s₁ q d = (r', s₂)) (c' d' : Bytes) :
    ∃ s₁' s₂', Files.write s p c' = (r, s₁') ∧ Files.write s₁' q d' = (r', s₂') := by
  have h := h s [(p, c), (q, d)] [(p, c'), (q, d')] rfl
  simp only [Files.outcomes, List.cons.injEq, hp, hq] at h
  exact ⟨_, _, Prod.ext h.1.symm rfl, Prod.ext h.2.1.symm rfl⟩

end IgnoresBytes

end

end HeaderBindings
