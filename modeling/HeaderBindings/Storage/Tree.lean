import HeaderBindings.Storage.Access

/-!
# A file tree in memory

`FileTree` holds directories and files by their place below the root, together with
the working directory from which relative paths start.  Its operations resolve a
path component by component, as an operating system does, so that they fail with the
fault of the first component that cannot be passed:

* a component below something that is no directory,
* a component that is longer than 255 octets,
* a component that does not exist.

`createDirs` works from the deepest directory that it can create: a directory that
has no parent yet waits until its parent has been created.  If it fails half-way, the
directories made so far stay.
-/

namespace HeaderBindings

/-- A place in a tree: the names on the way from the root. -/
abbrev Location := List Text

inductive Node where
  | dir
  | file (contents : Bytes)
  deriving DecidableEq, Repr

/-- A tree of directories and files.  The root is a directory without an entry. -/
structure FileTree where
  entries : List (Location × Node)
  workDir : Location
  deriving DecidableEq, Repr

namespace FileTree

def lookup (t : FileTree) (l : Location) : Option Node :=
  if l = [] then some .dir else (t.entries.find? (·.1 = l)).map (·.2)

def isDirAt (t : FileTree) (l : Location) : Bool := t.lookup l = some .dir

def put (t : FileTree) (l : Location) (n : Node) : FileTree :=
  { t with entries := (l, n) :: t.entries.filter (·.1 ≠ l) }

/-! ### Resolving paths -/

/-- The most octets of a component. -/
def maxName : Nat := 255

/-- The most octets of a path. -/
def maxPath : Nat := 4095

def step (t : FileTree) (l : Location) (name : Text) : Except Fault Location :=
  if !t.isDirAt l then .error .notDirectory
  else if name = ("." : Text) then .ok l
  else if name = (".." : Text) then .ok l.dropLast
  else if name.utf8.length > maxName then .error .nameTooLong
  else if (t.lookup (l ++ [name])).isSome then .ok (l ++ [name])
  else .error .notFound

def walk (t : FileTree) (l : Location) (names : List Text) : Except Fault Location :=
  names.foldlM t.step l

/-- A path taken apart: where it starts, the components before the last, the last
    one, and whether a slash follows it. -/
structure Route where
  start : Location
  before : List Text
  last : Option Text
  endsInSlash : Bool
  deriving DecidableEq, Repr

/-- Take a path apart, unless it is empty, too long or holds U+0000. -/
def route (t : FileTree) (p : Path) : Except Fault Route :=
  if p.contains (Char.ofNat 0) then .error .nulInPath
  else if p = [] then .error .notFound
  else if maxPath < (Text.utf8 p).length then .error .nameTooLong
  else
    let names := (Path.segments p).filter (· ≠ [])
    .ok ⟨if Path.isAbsolute p then [] else t.workDir, names.dropLast, names.getLast?,
      p.getLast? = some '/'⟩

def resolve (t : FileTree) (p : Path) : Except Fault Location := do
  let r ← t.route p
  let l ← t.walk r.start (r.before ++ r.last.toList)
  if r.endsInSlash && !t.isDirAt l then .error .notDirectory else .ok l

def isDir (t : FileTree) (p : Path) : Bool :=
  match t.resolve p with
  | .ok l => t.isDirAt l
  | .error _ => false

def parentOf (t : FileTree) (r : Route) : Except Fault Location := do
  let l ← t.walk r.start r.before
  if t.isDirAt l then .ok l else .error .notDirectory

/-! ### Operations -/

def read (t : FileTree) (p : Path) : Except Fault Bytes := do
  let l ← t.resolve p
  match t.lookup l with
  | some (.file contents) => .ok contents
  | some .dir => .error .isDirectory
  | none => .error .notFound

/-- The place at which a file can be written. -/
def fileTarget (t : FileTree) (p : Path) : Except Fault Location := do
  let r ← t.route p
  match r.last with
  | none => .error .isDirectory
  | some name =>
    let l ← t.parentOf r
    if name = ("." : Text) ∨ name = (".." : Text) ∨ r.endsInSlash then .error .isDirectory
    else if name.utf8.length > maxName then .error .nameTooLong
    else if t.isDirAt (l ++ [name]) then .error .isDirectory
    else .ok (l ++ [name])

def write (t : FileTree) (p : Path) (contents : Bytes) : Except Fault Unit × FileTree :=
  match t.fileTarget p with
  | .ok l => (.ok (), t.put l (.file contents))
  | .error f => (.error f, t)

/-- The place at which a directory can be created. -/
def dirTarget (t : FileTree) (p : Path) : Except Fault Location := do
  let r ← t.route p
  match r.last with
  | none => .error .exists
  | some name =>
    let l ← t.parentOf r
    if name = ("." : Text) ∨ name = (".." : Text) then .error .exists
    else if name.utf8.length > maxName then .error .nameTooLong
    else if (t.lookup (l ++ [name])).isSome then .error .exists
    else .ok (l ++ [name])

def createDir (t : FileTree) (p : Path) : Except Fault Unit × FileTree :=
  match t.dirTarget p with
  | .ok l => (.ok (), t.put l .dir)
  | .error f => (.error f, t)

/-- Create one directory, and be content with one that exists already. -/
def ensureDir (t : FileTree) (p : Path) : Except Fault Unit × FileTree :=
  match t.createDir p with
  | (.ok (), t) => (.ok (), t)
  | (.error f, t) => if t.isDir p then (.ok (), t) else (.error f, t)

/-- Make sure that the first of some directories exists, where each is followed by the
    directory above it. -/
def ensureChain (t : FileTree) : List Path → Except Fault Unit × FileTree
  | [] => (.error .notFound, t)
  | p :: above =>
    if p = [] then (.ok (), t)
    else match t.createDir p with
      | (.ok (), t) => (.ok (), t)
      | (.error .notFound, t) =>
        match t.ensureChain above with
        | (.ok (), t) => t.ensureDir p
        | (.error f, t) => (.error f, t)
      | (.error f, t) => if t.isDir p then (.ok (), t) else (.error f, t)

def createDirs (t : FileTree) (p : Path) : Except Fault Unit × FileTree :=
  t.ensureChain (Path.ancestors p)

instance : FileAccess (StateM FileTree) where
  read p := fun t => (t.read p, t)
  createDirs p := fun t => t.createDirs p
  write p contents := fun t => t.write p contents

end FileTree

end HeaderBindings
