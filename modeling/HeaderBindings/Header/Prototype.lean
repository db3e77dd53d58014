import HeaderBindings.Header.Typedef
import HeaderBindings.Markers

/-!
# Exported prototypes

In a text in normal form an exported prototype is written

    EXPORT type CALL name(params);

with the two markers of the header's conventions, and at most one space before the
opening parenthesis and before the semicolon.  It begins at a word boundary.  The
type is not empty and holds no semicolon, brace or parenthesis; the name is a
maximal run of word characters; the parameters reach to the first closing
parenthesis.

Where several call markers follow an export marker, the type ends before the first
one that a name, parameters and a semicolon follow; so it is as short as it can be.
`Header.prototypes` lists the matches of a text from left to right, each beginning
at or after the end of the one before.

Independently, `Header.unmatched` lists the places where the export marker stands
alone and begins no match.
-/

namespace HeaderBindings.Header

structure Prototype where
  returnText : Text
  name : Text
  paramText : Text
  deriving DecidableEq, Repr

namespace Prototype

structure Declared where
  name : Text
  paramText : Text
  deriving DecidableEq, Repr

def params? (t : Text) : Option (Text × Text) :=
  match t.span (· ≠ ')') with
  | (params, _ :: rest) => some (params, rest)
  | (_, []) => none

/-- Read the call marker, the name and the parameters, and what follows the semicolon. -/
def declared? (calling t : Text) : Option (Declared × Text) := do
  let t ← space? t
  let t ← calling.isPrefixOf? t
  let t ← space? t
  let (name, t) ← word? t
  let t ← closing? '(' t
  let (params, t) ← params? t
  let t ← closing? ';' t
  return (⟨name, params⟩, t)

/-- The characters that end the search for a call marker. -/
def endsType (c : Char) : Bool := c == ';' || c == '{' || c == '}' || c == '(' || c == ')'

/-- Read the type, the name and the parameters, and what follows the semicolon.  The
    type has one character at least and is as short as it can be. -/
def body? (calling : Text) : Text → Option (Prototype × Text)
  | [] => none
  | c :: rest =>
    if endsType c then none
    else match declared? calling rest with
      | some (d, tail) => some (⟨[c], d.name, d.paramText⟩, tail)
      | none => (body? calling rest).map fun (p, tail) =>
          ({ p with returnText := c :: p.returnText }, tail)

/-- Is there a word boundary between two characters, of which either may be missing? -/
def isBoundary (before next : Option Char) : Bool := before.any isWord != next.any isWord

/-- Read the prototype a text begins with, and what follows it, given the character
    before the text. -/
def read? (m : Markers) (before : Option Char) (t : Text) : Option (Prototype × Text) :=
  if isBoundary before t.head? then do
    let t ← m.exporting.isPrefixOf? t
    let t ← space? t
    body? m.calling t
  else none

end Prototype

/-! ### Matches -/

/-- A prototype and the place where it begins. -/
structure Match where
  start : Nat
  prototype : Prototype
  deriving DecidableEq, Repr

/-- The matches in the rest of a text that begins at `place` behind the character
    `before`, where the first `skip` characters belong to the last match. -/
def matchesFrom (m : Markers) (place skip : Nat) (before : Option Char) : Text → List Match
  | [] => []
  | c :: rest =>
    match skip with
    | skip + 1 => matchesFrom m (place + 1) skip (some c) rest
    | 0 =>
      match Prototype.read? m before (c :: rest) with
      | some (p, tail) =>
        ⟨place, p⟩ :: matchesFrom m (place + 1) (rest.length - tail.length) (some c) rest
      | none => matchesFrom m (place + 1) 0 (some c) rest

def prototypes (m : Markers) (t : Text) : List Match := matchesFrom m 0 0 none t

/-! ### Markers without a match -/

structure Occurrence where
  start : Nat
  before : Option Char
  text : Text
  deriving DecidableEq, Repr

/-- The occurrences of a marker in the rest of a text; the first `skip` characters
    belong to the last occurrence. -/
def occurrencesFrom (marker : Text) (place skip : Nat) (before : Option Char) :
    Text → List Occurrence
  | [] => []
  | c :: rest =>
    match skip with
    | skip + 1 => occurrencesFrom marker (place + 1) skip (some c) rest
    | 0 =>
      if marker.isPrefixOf (c :: rest) then
        ⟨place, before, c :: rest⟩ ::
          occurrencesFrom marker (place + 1) (marker.length - 1) (some c) rest
      else occurrencesFrom marker (place + 1) 0 (some c) rest

/-- The occurrences of a marker, from left to right, no two of which overlap. -/
def occurrences (marker t : Text) : List Occurrence := occurrencesFrom marker 0 0 none t

/-- Does the marker stand alone, so that neither neighbour could belong to its name? -/
def Occurrence.standsAlone (marker : Text) (o : Occurrence) : Bool :=
  !o.before.any isNamePart && !(o.text.drop marker.length).head?.any isNamePart

/-- The occurrences of the export marker in a text that stand alone and begin none of
    the given matches. -/
def unmatched (m : Markers) (found : List Match) (t : Text) : List Occurrence :=
  let starts := found.map Match.start
  (occurrences m.exporting t).filter fun o =>
    o.standsAlone m.exporting && o.start ∉ starts

def excerptLength : Nat := 120

def upToSemicolon (t : Text) : Text :=
  t.takeWhile (· ≠ ';') ++ (t.dropWhile (· ≠ ';')).take 1

/-- A declaration as it is shown in messages: up to its semicolon, and cut if it is
    too long.  One character more than can be shown decides whether it is. -/
def excerpt (t : Text) : Text :=
  let d := upToSemicolon (t.take (excerptLength + 1))
  if d.length ≤ excerptLength then d else d.take excerptLength ++ "..."

end HeaderBindings.Header
