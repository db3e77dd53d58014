import HeaderBindings.Text.Basic

/-!
# C types

A C type is read as flat as the declarations of a handle-based interface need: the
words that name it, the number of stars, and whether `const` stands anywhere in it.

`Specifiers.ofText` does the reading for types and for parameters alike.  Stars
separate words, so the blanks around them mean nothing, and neither does the place
of `const`.  `CType.text` writes a type with `const` in front and the stars behind.
-/

namespace HeaderBindings

/-- What a declaration says apart from the order of its stars and qualifiers. -/
structure Specifiers where
  words : List Text
  stars : Nat
  isConst : Bool
  deriving DecidableEq, Repr

/-- The words of a text whose stars count as blanks. -/
def starlessWords (t : Text) : List Text :=
  Text.words (t.map fun c => if c = '*' then ' ' else c)

def constWord : Text := "const"

def Specifiers.ofText (t : Text) : Specifiers where
  words := (starlessWords t).filter (· ≠ constWord)
  stars := t.count '*'
  isConst := constWord ∈ starlessWords t

/-- A C type: its name, its pointer depth and its qualifier. -/
structure CType where
  base : Text
  depth : Nat
  isConst : Bool
  deriving DecidableEq, Repr

namespace CType

def ofText (t : Text) : CType :=
  let s := Specifiers.ofText t
  ⟨Text.unwords s.words, s.stars, s.isConst⟩

/-- The type as it is written in messages: `const`, the name, the stars. -/
def text (c : CType) : Text :=
  (if c.isConst then ("const " : Text) else []) ++ c.base ++ List.replicate c.depth '*'

def isVoid (c : CType) : Bool := c.base = ("void" : Text) && c.depth == 0

end CType

end HeaderBindings
