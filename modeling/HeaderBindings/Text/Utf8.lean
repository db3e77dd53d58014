import HeaderBindings.Text.Basic

/-!
# UTF-8

Files hold octets.  `Text.utf8` writes a text as octets; reading goes through
`pieces`, a machine that takes one octet at a time and knows how many octets the
character under way still owes and between which bounds the next one lies.  The
bounds rule out overlong forms, surrogates and values above `0x10FFFF`.

An octet outside the bounds ends the character under way, which counts as one
malformed piece, and is then read as a first octet itself.  So every maximal
beginning of a character that is never completed is one malformed piece, and so is
every octet that can begin nothing.

The two readers differ in what they make of a malformed piece: `decodeLossy` writes
the replacement character, `decode?` refuses the file.
-/

namespace HeaderBindings

abbrev Bytes := List UInt8

namespace Utf8

/-- A character under way: the value of its octets so far, how many octets it
    still owes, and the bounds of the next one. -/
structure Pending where
  value : Nat
  owed : Nat
  low : Nat
  high : Nat
  deriving DecidableEq, Repr

/-- What the reader finds: a character, or a malformed piece. -/
inductive Piece where
  | char (c : Char)
  | malformed
  deriving DecidableEq, Repr

inductive Start where
  | ascii (c : Char)
  | opens (p : Pending)
  | malformed
  deriving DecidableEq, Repr

def start (b : Nat) : Start :=
  if b < 0x80 then .ascii (Char.ofNat b)
  else if b < 0xC2 then .malformed
  else if b < 0xE0 then .opens ⟨b - 0xC0, 1, 0x80, 0xBF⟩
  else if b = 0xE0 then .opens ⟨0, 2, 0xA0, 0xBF⟩
  else if b = 0xED then .opens ⟨0xD, 2, 0x80, 0x9F⟩
  else if b < 0xF0 then .opens ⟨b - 0xE0, 2, 0x80, 0xBF⟩
  else if b = 0xF0 then .opens ⟨0, 3, 0x90, 0xBF⟩
  else if b < 0xF4 then .opens ⟨b - 0xF0, 3, 0x80, 0xBF⟩
  else if b = 0xF4 then .opens ⟨4, 3, 0x80, 0x8F⟩
  else .malformed

def Pending.extend (p : Pending) (b : Nat) : Nat := p.value * 64 + b % 64

/-- Read an octet where no character is under way: what is found, and the character that is
    under way then. -/
def fresh (b : UInt8) : List Piece × Option Pending :=
  match start b.toNat with
  | .ascii c => ([.char c], none)
  | .opens p => ([], some p)
  | .malformed => ([.malformed], none)

def step : Option Pending → UInt8 → List Piece × Option Pending
  | none, b => fresh b
  | some p, b =>
    if p.low ≤ b.toNat ∧ b.toNat ≤ p.high then
      if p.owed = 1 then ([.char (Char.ofNat (p.extend b.toNat))], none)
      else ([], some ⟨p.extend b.toNat, p.owed - 1, 0x80, 0xBF⟩)
    else (.malformed :: (fresh b).1, (fresh b).2)

/-- The pieces of a run of octets, from the given state on. -/
def piecesFrom : Option Pending → Bytes → List Piece
  | none, [] => []
  | some _, [] => [.malformed]
  | state, b :: rest => (step state b).1 ++ piecesFrom (step state b).2 rest

def pieces (bs : Bytes) : List Piece := piecesFrom none bs

def replacement : Char := Char.ofNat 0xFFFD

def Piece.lossy : Piece → Char
  | .char c => c
  | .malformed => replacement

def Piece.char? : Piece → Option Char
  | .char c => some c
  | .malformed => none

/-- Read octets, writing the replacement character for every malformed piece. -/
def decodeLossy (bs : Bytes) : Text := (pieces bs).map Piece.lossy

/-- Read octets that must be well formed throughout. -/
def decode? (bs : Bytes) : Option Text := (pieces bs).mapM Piece.char?

end Utf8

def Text.utf8 (t : Text) : Bytes := t.flatMap String.utf8EncodeChar

end HeaderBindings
