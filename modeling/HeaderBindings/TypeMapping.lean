import HeaderBindings.OpaqueTypes
import HeaderBindings.SignatureType

/-!
# From C types to types of generated signatures

A C type is mapped by the kind of its base name and by its depth:

| base              | depth                | result                                       |
|-------------------|----------------------|----------------------------------------------|
| `void`            | 0, 1, more           | no value, one pointer, two pointers          |
| a scalar          | any                  | the scalar under as many pointers            |
| `char`            | up to 2, more        | `c_char` under as many pointers, an integer  |
| an opaque type    | up to 1, 2, more     | the handle, a pointer to it, an integer      |
| anything else     | any                  | an integer, and a warning                    |

One native pointer to an opaque type is the handle itself.  The qualifier makes the
innermost pointer constant, except that a pointer to a handle is always mutable.
-/

namespace HeaderBindings

def Scalar.ofCName? (name : Text) : Option Scalar :=
  if name = ("bool" : Text) then some .bool
  else if name = ("int32_t" : Text) ∨ name = ("int" : Text) then some .i32
  else if name = ("int64_t" : Text) then some .i64
  else if name = ("uint8_t" : Text) then some .u8
  else if name = ("uint16_t" : Text) then some .u16
  else if name = ("uint32_t" : Text) then some .u32
  else if name = ("uint64_t" : Text) then some .u64
  else if name = ("size_t" : Text) then some .usize
  else if name = ("float" : Text) then some .f32
  else if name = ("double" : Text) then some .f64
  else none

namespace TypeMapping

inductive BaseKind where
  | void
  | scalar (p : Scalar)
  | char
  | opaqueType (o : OpaqueType)
  | unknown
  deriving DecidableEq, Repr

/-- The kind of a base name.  A built-in name is never an opaque type. -/
def baseKind (opaques : OpaqueTypes) (base : Text) : BaseKind :=
  if base = ("void" : Text) then .void
  else match Scalar.ofCName? base with
    | some p => .scalar p
    | none =>
      if base = ("char" : Text) then .char
      else match opaques.get? base with
        | some o => .opaqueType o
        | none => .unknown

def isBuiltin (word : Text) : Bool :=
  word = ("char" : Text) || word = ("void" : Text) || (Scalar.ofCName? word).isSome

/-- Does a lone word name a type rather than a parameter? -/
def namesType (opaques : OpaqueTypes) (word : Text) : Bool :=
  isBuiltin word || opaques.contains word

def ofKind (kind : BaseKind) (depth : Nat) (isConst : Bool) : SignatureType :=
  match kind with
  | .void =>
    if depth = 0 then .unit
    else if depth = 1 then .underPointers .untyped 1 isConst
    else .underPointers .untyped 2 isConst
  | .scalar p => .underPointers (.scalar p) depth isConst
  | .char => if depth ≤ 2 then .underPointers (.scalar .cChar) depth isConst else .machineWord
  | .opaqueType o =>
    if depth ≤ 1 then .handle o.handle
    else if depth = 2 then .underPointers (.handle o.handle) 1 false
    else .machineWord
  | .unknown => .machineWord

def map (opaques : OpaqueTypes) (c : CType) : SignatureType :=
  ofKind (baseKind opaques c.base) c.depth c.isConst

def isUnrecognized (opaques : OpaqueTypes) (c : CType) : Bool :=
  baseKind opaques c.base = .unknown

/-- The notices about the types without a rule, one for each occurrence. -/
def complaints (opaques : OpaqueTypes) (cs : List CType) : List Notice :=
  (cs.filter (isUnrecognized opaques)).map .unrecognizedType

/-- The distinct base names without a rule, in increasing order. -/
def unmapped (opaques : OpaqueTypes) (cs : List CType) : List Text :=
  Names.sorted ((cs.filter (isUnrecognized opaques)).map CType.base)

end TypeMapping

end HeaderBindings
