import HeaderBindings.Text.Word

/-!
# Structure typedefs

In a text in normal form a structure typedef is written

    typedef struct Tag Alias;

with at most one space before the semicolon, where the tag and the alias are maximal
runs of word characters.  It may begin anywhere, even inside a longer word.
`Header.typedefs` lists the typedefs of a text from left to right.

A typedef whose tag and alias agree declares an opaque type.
-/

namespace HeaderBindings.Header

def spanWord (t : Text) : Text × Text := t.span isWord

def word? (t : Text) : Option (Text × Text) :=
  match spanWord t with
  | ([], _) => none
  | (w, rest) => some (w, rest)

def space? : Text → Option Text
  | ' ' :: rest => some rest
  | _ => none

def skipSpace : Text → Text
  | ' ' :: rest => rest
  | t => t

/-- What follows the given character, with at most one space before it. -/
def closing? (c : Char) (t : Text) : Option Text :=
  match skipSpace t with
  | d :: rest => if d = c then some rest else none
  | [] => none

structure Typedef where
  tag : Text
  aliasName : Text
  deriving DecidableEq, Repr

namespace Typedef

/-- A typedef declares an opaque type when its tag is its alias. -/
def isHandle (d : Typedef) : Bool := d.tag = d.aliasName

def opening : Text := "typedef struct "

/-- Read the typedef a text begins with, and what follows it. -/
def read? (t : Text) : Option (Typedef × Text) := do
  let t ← opening.isPrefixOf? t
  let (tag, t) ← word? t
  let t ← space? t
  let (aliasName, t) ← word? t
  let t ← closing? ';' t
  return (⟨tag, aliasName⟩, t)

end Typedef

/-- The typedefs of a text, where the first `skip` characters belong to the last one
    that was found. -/
def typedefsFrom (skip : Nat) : Text → List Typedef
  | [] => []
  | c :: rest =>
    match skip with
    | skip + 1 => typedefsFrom skip rest
    | 0 =>
      match Typedef.read? (c :: rest) with
      | some (d, tail) => d :: typedefsFrom (rest.length - tail.length) rest
      | none => typedefsFrom 0 rest

def typedefs (t : Text) : List Typedef := typedefsFrom 0 t

end HeaderBindings.Header
