import HeaderBindings.Text.Basic

/-!
# Handles

A handle is a machine word that a native library hands out for one of its objects; the
word zero stands for no object.  A handle also has a kind, the qualified name of the
marker type that tells the handles of one opaque type from those of another.  The kind
is an index of the type `Handle`, so that handles of two kinds are never compared or
exchanged.

Handles are kept in *slots*.  Taking a handle out of a slot leaves the slot empty, and
moving one takes it before it is stored, so that no handle is ever in two places by
being moved.
-/

namespace HeaderBindings

structure Handle (kind : Text) where
  word : UInt64
  deriving DecidableEq, Repr

namespace Handle

variable {kind : Text}

/-- The handle of no object. -/
def absent : Handle kind := ⟨0⟩

instance : Inhabited (Handle kind) := ⟨absent⟩

def isAbsent (h : Handle kind) : Bool := h.word == 0

def present? (h : Handle kind) : Option (Handle kind) := if h.isAbsent then none else some h

/-- Take the handle out of a variable: the handle, and what is left. -/
def take (h : Handle kind) : Handle kind × Handle kind := (h, absent)

/-! ### Writing handles -/

def hexDigits (h : Handle kind) : Text := Nat.toDigits 16 h.word.toNat

/-- The last part of a qualified name: what follows its last double colon. -/
def lastPart : Text → Text
  | [] => []
  | c :: rest =>
    if (Text.after? "::" rest).isSome then lastPart rest
    else match rest with
      | ':' :: last => if c = ':' then last else c :: rest
      | _ => c :: rest

/-- The handle as it is shown for inspection. -/
def debugText (h : Handle kind) : Text :=
  "Handle<" ++ lastPart kind ++ ">(0x" ++ h.hexDigits ++ ")"

def debugLines (hs : List (Handle kind)) : Text :=
  if hs = [] then "[]"
  else "[\n" ++ hs.flatMap (fun h => "    ".toList ++ h.debugText ++ ",\n".toList) ++ "]"

def addressText (h : Handle kind) : Text := "0x" ++ h.hexDigits

def zeroFilled (width : Nat) (digits : Text) : Text :=
  List.replicate (width - digits.length) '0' ++ digits

/-- The handle as an address with all of its digits. -/
def fullAddressText (h : Handle kind) : Text := "0x" ++ zeroFilled 16 h.hexDigits

def addressRight (width : Nat) (h : Handle kind) : Text :=
  List.replicate (width - h.addressText.length) ' ' ++ h.addressText

def addressLeft (width : Nat) (h : Handle kind) : Text :=
  h.addressText ++ List.replicate (width - h.addressText.length) ' '

/-- The address in a field of the given width, filled with zeros after its `0x`. -/
def addressZeros (width : Nat) (h : Handle kind) : Text :=
  "0x" ++ zeroFilled (width - 2) h.hexDigits

end Handle

/-! ### Slots -/

/-- A row of slots, each of which holds a handle. -/
abbrev Slots (kind : Text) (n : Nat) := Fin n → Handle kind

namespace Slots

variable {kind : Text} {n : Nat}

def empty : Slots kind n := fun _ => .absent

def store (s : Slots kind n) (i : Fin n) (h : Handle kind) : Slots kind n :=
  fun j => if j = i then h else s j

def take (s : Slots kind n) (i : Fin n) : Handle kind × Slots kind n :=
  ((s i).take.1, s.store i (s i).take.2)

/-- Take the handle out of one slot and store it in another, or in the same. -/
def move (s : Slots kind n) (source target : Fin n) : Slots kind n :=
  (s.take source).2.store target (s.take source).1

def toList (s : Slots kind n) : List (Handle kind) := List.ofFn s

def distinct (s : Slots kind n) : Nat := s.toList.eraseDups.length

end Slots

end HeaderBindings
