import HeaderBindings.TypeMapping

/-!
# Parameter lists

A parameter list is cut at the commas outside parentheses, blank segments are
skipped, and each segment that is left is read as one declarator.

* A segment with `(*` declares a callback.  Its name is the last word between `(*`
  and the next closing parenthesis, and it is passed as a pointer-sized integer.
* Of any other segment the stars and `const` are taken out.  Of two or more words
  that remain the last is the name.  A single word is a type if it names one and a
  name otherwise; then the type is `int`, as it is when no word remains.

A parameter without a name is called `arg` and its position in the list.
-/

namespace HeaderBindings

structure Param where
  name : Text
  cType : CType
  type : SignatureType
  deriving DecidableEq, Repr

namespace ParameterList

/-! ### Segments -/

/-- The depth of parentheses after a character.  A closing parenthesis without an
    opening one is ignored. -/
def depthAfter (depth : Nat) (c : Char) : Nat :=
  if c = '(' then depth + 1 else if c = ')' then depth - 1 else depth

def extendFirst (c : Char) : List Text → List Text
  | [] => [[c]]
  | s :: ss => (c :: s) :: ss

def segmentsFrom (depth : Nat) : Text → List Text
  | [] => [[]]
  | c :: rest =>
    if c = ',' ∧ depth = 0 then [] :: segmentsFrom 0 rest
    else extendFirst c (segmentsFrom (depthAfter depth c) rest)

/-- The segments between the commas outside parentheses. -/
def segments (list : Text) : List Text := segmentsFrom 0 list

end ParameterList

/-! ### Declarators -/

inductive Declarator where
  | callback (name : Text)
  | plain (name : Text) (type : CType)
  deriving DecidableEq, Repr

def positionalName (index : Nat) : Text := "arg" ++ Text.ofNat index

def defaultBase : Text := "int"

/-- The name declared after `(*`, if the text declares a callback; it may be empty. -/
def callbackName? (t : Text) : Option Text :=
  (Text.after? "(*" t).map fun rest =>
    let inner := rest.takeWhile (· ≠ ')')
    let ws := (Text.words inner).filter (· ≠ constWord)
    (ws.getLastD []).dropWhile (· = '*')

namespace Declarator

def nameAndBase (opaques : OpaqueTypes) (index : Nat) : List Text → Text × Text
  | [] => (positionalName index, defaultBase)
  | [word] =>
    if TypeMapping.namesType opaques word then (positionalName index, word)
    else (word, defaultBase)
  | word :: next :: rest =>
    ((next :: rest).getLastD [], Text.unwords (word :: next :: rest).dropLast)

def ofText (opaques : OpaqueTypes) (index : Nat) (t : Text) : Declarator :=
  match callbackName? (Text.trim t) with
  | some name => .callback (if name = [] then positionalName index else name)
  | none =>
    let s := Specifiers.ofText (Text.trim t)
    let (name, base) := nameAndBase opaques index s.words
    .plain name ⟨base, s.stars, s.isConst⟩

def param (opaques : OpaqueTypes) : Declarator → Param
  | .callback name => ⟨name, ⟨"void", 1, false⟩, .machineWord⟩
  | .plain name type => ⟨name, type, TypeMapping.map opaques type⟩

/-- The C type that is mapped for the parameter; a callback has none. -/
def mappedType? : Declarator → Option CType
  | .callback _ => none
  | .plain _ type => some type

end Declarator

namespace ParameterList

/-- The segments that declare a parameter, without the blanks around them. -/
def declarations (list : Text) : List Text :=
  ((segments list).map Text.trim).filter (· ≠ [])

/-- The declarators of a parameter list.  A blank list and `void` have none. -/
def declarators (opaques : OpaqueTypes) (list : Text) : List Declarator :=
  let t := Text.collapse list
  if t = [] ∨ t = ("void" : Text) then []
  else (declarations t).mapIdx (Declarator.ofText opaques)

def params (opaques : OpaqueTypes) (list : Text) : List Param :=
  (declarators opaques list).map (Declarator.param opaques)

def mappedTypes (opaques : OpaqueTypes) (list : Text) : List CType :=
  (declarators opaques list).filterMap Declarator.mappedType?

end ParameterList

end HeaderBindings
