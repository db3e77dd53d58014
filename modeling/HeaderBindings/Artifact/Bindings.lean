import HeaderBindings.Artifact.UniqueNames

/-!
# What the generated files have in common

`Bindings` is all that the two generated files are rendered from.  This module holds
the pieces that both of them are made of: the banner, the imports of foreign types,
and the signature of a method in its two forms.

A generated file is a list of lines.  Text in documentation comments (the package
name and the name of the header) stands on comment lines only.
-/

namespace HeaderBindings

/-- What generated files are rendered from. -/
structure Bindings where
  headerPath : Path
  package : Text
  opaqueTypes : OpaqueTypes
  functions : List Function
  deriving DecidableEq, Repr

namespace Bindings

/-- The name of the header in comments: its last component, so that the output does
    not depend on where the header lies. -/
def headerTitle (b : Bindings) : Text := (Path.fileName? b.headerPath).getD b.headerPath

def signatureTypes (f : Function) : List SignatureType := f.returnType :: f.params.map (·.type)

def types (b : Bindings) : List SignatureType := b.functions.flatMap signatureTypes

end Bindings

namespace Artifact

/-- The path of the runtime crate as it is written in generated code: relative paths
    and anchored ones as they are, a crate name anchored. -/
def runtimeRoot (runtimeCrate : Text) : Text :=
  let isRelative := (["crate", "self", "super"] : List String).any fun root =>
    runtimeCrate = root.toList || Text.startsWith runtimeCrate (root.toList ++ "::")
  if isRelative || Text.startsWith runtimeCrate "::" then runtimeCrate
  else "::" ++ runtimeCrate

def siblingModule (file : Text) : Text := Identifier.escape ((Path.fileStem? file).getD file)

def banner (title : Text) (b : Bindings) : List Text :=
  ["//! " ++ title ++ " for `" ++ b.package ++ "`.",
   "//!",
   "//! Code generated by hdrbind from `" ++ b.headerTitle ++ "`. DO NOT EDIT.",
   [],
   "#![allow(non_snake_case, clippy::missing_safety_doc, clippy::too_many_arguments)]",
   []]

def foreignNames (b : Bindings) : List Text :=
  (if b.types.any SignatureType.needsCChar then ["c_char".toList] else []) ++
    (if b.types.any SignatureType.needsCVoid then ["c_void".toList] else [])

def foreignImports (b : Bindings) : List Text :=
  match foreignNames b with
  | [] => []
  | [name] => ["use std::ffi::" ++ name ++ ";", []]
  | names => ["use std::ffi::\x7b" ++ Text.joinWith ", " names ++ "\x7d;", []]

def returnText (t : SignatureType) : Text := if t.isUnit then [] else " -> " ++ t.text

def methodParams (f : Function) : List (Text × SignatureType) :=
  (argumentNames f.params).zip (f.params.map (·.type))

def paramText (p : Text × SignatureType) : Text := ", " ++ p.1 ++ ": " ++ p.2.text

def methodSignature (f : Function) : Text :=
  "unsafe fn " ++ methodName f ++ "(&self" ++ (methodParams f).flatMap paramText ++ ")" ++
    returnText f.returnType

def pointerType (f : Function) : Text :=
  "unsafe extern \"C\" fn(" ++ Text.joinWith ", " (f.params.map (·.type.text)) ++
    ")" ++ returnText f.returnType

end Artifact

end HeaderBindings
