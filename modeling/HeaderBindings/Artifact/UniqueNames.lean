import HeaderBindings.Declarations

/-!
# Unique names

The parameters of one method and the fields of the function table need distinct
names.  Names are settled from left to right: a name that an earlier one has gets the
suffix `_2`, or `_3`, and so on, the least that makes it differ from all earlier ones.

Parameters are escaped before they are compared.  Field names are compared in snake
case and escaped afterwards.
-/

namespace HeaderBindings.Artifact

/-- A name with its suffix; the first candidate has none and the second has `_2`. -/
def suffixed (base : Text) (k : Nat) : Text :=
  if k = 0 then base else base ++ "_" ++ Text.ofNat (k + 1)

/-- The first candidate that is not among the given names.  One of any `n + 1`
    candidates is not among `n` names. -/
def fresh (seen : List Text) (base : Text) : Text :=
  suffixed base (leastBelow (seen.length + 1) fun k => suffixed base k ∉ seen)

/-- The names in turn, each made to differ from those before it. -/
def uniqueFrom (seen : List Text) : List Text → List Text
  | [] => []
  | base :: rest => fresh seen base :: uniqueFrom (fresh seen base :: seen) rest

def unique (names : List Text) : List Text := uniqueFrom [] names

def argumentNames (ps : List Param) : List Text :=
  unique (ps.map fun p => Identifier.escape p.name)

/-- The names of the fields for functions before escaping. -/
def fieldStems (fs : List Function) : List Text :=
  unique (fs.map fun f => Identifier.snakeCase f.stem)

def tableFields (fs : List Function) : List Text := (fieldStems fs).map Identifier.escape

def methodName (f : Function) : Text := Identifier.escape f.stem

end HeaderBindings.Artifact
