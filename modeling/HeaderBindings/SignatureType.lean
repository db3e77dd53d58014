import HeaderBindings.Text.Basic

/-!
# Types of the generated code

The types that generated signatures use: scalars, raw pointers, handles by name,
and the pointer-sized integer that stands for everything else.  `SignatureType.text`
is their spelling.

Pointers are put around a type by `SignatureType.underPointers`: of their layers only
the innermost one can be `*const`.
-/

namespace HeaderBindings

inductive Scalar where
  | bool | i32 | i64 | u8 | u16 | u32 | u64 | usize | f32 | f64
  | cChar
  deriving DecidableEq, Repr

def Scalar.text : Scalar → Text
  | .bool => "bool"
  | .i32 => "i32"
  | .i64 => "i64"
  | .u8 => "u8"
  | .u16 => "u16"
  | .u32 => "u32"
  | .u64 => "u64"
  | .usize => "usize"
  | .f32 => "f32"
  | .f64 => "f64"
  | .cChar => "c_char"

inductive SignatureType where
  | unit
  /-- The pointee of an untyped pointer. -/
  | untyped
  /-- An integer as wide as a pointer, for whatever has no type of its own. -/
  | machineWord
  | scalar (p : Scalar)
  | pointer (isMut : Bool) (pointee : SignatureType)
  /-- A handle, by the name of its alias. -/
  | handle (name : Text)
  deriving DecidableEq, Repr

namespace SignatureType

/-- A type inside the given number of pointers.  Every layer is mutable but the
    innermost one, which is not if the type pointed to is constant. -/
def underPointers (inner : SignatureType) : Nat → Bool → SignatureType
  | 0, _ => inner
  | 1, isConst => .pointer (!isConst) inner
  | depth + 2, isConst => .pointer true (underPointers inner (depth + 1) isConst)

/-- What is left of a type under all of its pointers. -/
def core : SignatureType → SignatureType
  | .pointer _ pointee => pointee.core
  | other => other

def text : SignatureType → Text
  | .unit => "()"
  | .untyped => "c_void"
  | .machineWord => "usize"
  | .scalar p => p.text
  | .pointer true pointee => "*mut " ++ pointee.text
  | .pointer false pointee => "*const " ++ pointee.text
  | .handle name => name

def isUnit (t : SignatureType) : Bool := t = .unit

def needsCChar (t : SignatureType) : Bool := t.core = .scalar .cChar

def needsCVoid (t : SignatureType) : Bool := t.core = .untyped

end SignatureType

end HeaderBindings
