import HeaderBindings.Text.Basic

/-!
# Path names

A path is a text whose components are separated by slashes.  Empty components and
the component `.` mean nothing, but for a `.` at the very beginning of a relative
path; `..` is a component of its own kind.

`Path.fileName?` is the last component if that is a name, `Path.fileStem?` is the
part of it before its last dot, and `Path.join` puts a path below another unless
it is absolute.
-/

namespace HeaderBindings

abbrev Path := Text

namespace Path

inductive Component where
  | root
  | here
  | up
  | name (n : Text)
  deriving DecidableEq, Repr

def segments (p : Path) : List Text := p.splitOn '/'

def isAbsolute (p : Path) : Bool := p.head? == some '/'

/-- A piece between slashes as a component, unless it means nothing. -/
def segmentComponent? (s : Text) : Option Component :=
  if s = [] ∨ s = ['.'] then none
  else if s = ['.', '.'] then some .up
  else some (.name s)

def components (p : Path) : List Component :=
  let first : List Component :=
    if isAbsolute p then [.root]
    else if (segments p).head? = some ['.'] then [.here]
    else []
  first ++ (segments p).filterMap segmentComponent?

def fileName? (p : Path) : Option Text :=
  match (components p).getLast? with
  | some (.name n) => some n
  | _ => none

/-- A file name without its last dot and what follows; a dot in front does not count. -/
def stem (name : Text) : Text :=
  let back := name.reverse
  match back.dropWhile (· ≠ '.') with
  | [] => name
  | _ :: front => if front = [] then name else front.reverse

def fileStem? (p : Path) : Option Text := (fileName? p).map stem

/-- The path of an entry below a directory.  An absolute path stays as it is. -/
def join (dir entry : Path) : Path :=
  if isAbsolute entry then entry
  else if dir = [] ∨ dir.getLast? = some '/' then dir ++ entry
  else dir ++ "/" ++ entry

def ofComponents : List Component → Path
  | .root :: rest => "/" ++ Text.joinWith ['/'] (rest.map spelling)
  | parts => Text.joinWith ['/'] (parts.map spelling)
where
  spelling : Component → Text
    | .root => []
    | .here => "."
    | .up => ".."
    | .name n => n

/-- The directories above the last of some components, which are given last one
    first.  The nearest directory comes first; the list ends with the root or with
    the empty path. -/
def aboveLast : List Component → List Path
  | [] => []
  | .root :: _ => []
  | _ :: before => ofComponents before.reverse :: aboveLast before

/-- The path itself and every directory above it, nearest first. -/
def ancestors (p : Path) : List Path := p :: aboveLast (components p).reverse

end Path

end HeaderBindings
