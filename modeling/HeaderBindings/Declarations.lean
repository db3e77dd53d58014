import HeaderBindings.Header.Normal
import HeaderBindings.Header.Prototype
import HeaderBindings.Parameter

/-!
# The declarations of a header

`Conventions.extract` reads a header into the opaque types and the functions that it
exports, and accounts for everything that it leaves out.

Of the prototypes matched in the normal form, the first one with a method stem
keeps it and every later one with that stem is a duplicate (`claimStems`).  All
prototypes are typed, duplicates too, against the opaque types of the whole header.

The log of an extraction is a function of its result and of the matched prototypes:
typedefs that declare no handle, aliases that had to be changed, what was met in
each prototype in turn, and export markers without a match.
-/

namespace HeaderBindings

structure Function where
  symbol : Text
  returnCType : CType
  returnType : SignatureType
  params : List Param
  /-- The method name, before escaping. -/
  stem : Text
  deriving DecidableEq, Repr

structure Declarations where
  opaqueTypes : OpaqueTypes
  functions : List Function
  /-- The number of structure typedefs that declare no handle. -/
  otherTypedefs : Nat
  /-- The number of prototypes whose method stem was taken. -/
  duplicates : Nat
  /-- The base types without a rule, in increasing order. -/
  unmapped : List Text
  /-- The number of exported declarations that are no prototypes. -/
  unmatched : Nat
  deriving DecidableEq, Repr

/-- What a source of declarations makes of a header, and what it reports. -/
structure Extraction where
  declarations : Declarations
  events : List Event
  deriving DecidableEq, Repr

/-! ### Typing a prototype -/

namespace Header.Prototype

def returnCType (p : Prototype) : CType := CType.ofText (Text.trim p.returnText)

def mappedTypes (opaques : OpaqueTypes) (p : Prototype) : List CType :=
  p.returnCType :: ParameterList.mappedTypes opaques (Text.trim p.paramText)

def function (opaques : OpaqueTypes) (stripped : Text) (p : Prototype) : Function where
  symbol := p.name
  returnCType := p.returnCType
  returnType := TypeMapping.map opaques p.returnCType
  params := ParameterList.params opaques (Text.trim p.paramText)
  stem := Identifier.methodStem p.name stripped

end Header.Prototype

/-! ### Method stems -/

/-- A function and the earlier function that has its method stem, if there is one. -/
structure StemClaim where
  function : Function
  holder : Option Function
  deriving DecidableEq, Repr

/-- Let functions claim their method stems in turn, after those that have one. -/
def claimStems (holders : List Function) : List Function → List StemClaim
  | [] => []
  | f :: fs =>
    match holders.find? (·.stem = f.stem) with
    | some g => ⟨f, some g⟩ :: claimStems holders fs
    | none => ⟨f, none⟩ :: claimStems (holders ++ [f]) fs

def StemClaim.kept? (c : StemClaim) : Option Function :=
  match c.holder with
  | none => some c.function
  | some _ => none

/-- What is reported of a prototype whose types are mapped and whose stem is claimed. -/
def StemClaim.notices (opaques : OpaqueTypes) (p : Header.Prototype) (c : StemClaim) :
    List Notice :=
  TypeMapping.complaints opaques (p.mappedTypes opaques) ++
    [.prototypeFound p.name c.function.params.length] ++
    match c.holder with
    | none => []
    | some g => [.duplicate p.name c.function.stem g.symbol]

/-! ### Findings -/

/-- All that is found in a text in normal form, and what becomes of it. -/
structure Findings where
  opaqueTypes : OpaqueTypes
  /-- The structure typedefs that declare no handle. -/
  otherTypedefs : List Header.Typedef
  prototypes : List Header.Prototype
  /-- The claims of the prototypes to their method stems, in the same order. -/
  claims : List StemClaim
  /-- The export markers that stand alone and begin no prototype. -/
  unmatched : List Header.Occurrence
  deriving DecidableEq, Repr

namespace Findings

def mappedTypes (x : Findings) : List CType :=
  x.prototypes.flatMap (·.mappedTypes x.opaqueTypes)

def declarations (x : Findings) : Declarations where
  opaqueTypes := x.opaqueTypes
  functions := x.claims.filterMap StemClaim.kept?
  otherTypedefs := x.otherTypedefs.length
  duplicates := x.claims.countP (·.holder.isSome)
  unmapped := TypeMapping.unmapped x.opaqueTypes x.mappedTypes
  unmatched := x.unmatched.length

/-- What is reported of the matched prototypes, each within its own function. -/
def prototypeEvents (x : Findings) : List Event :=
  (x.prototypes.zip x.claims).flatMap fun (p, c) =>
    (c.notices x.opaqueTypes p).map (Event.inside p.name)

def events (x : Findings) : List Event :=
  x.otherTypedefs.map (fun d => Event.outside (.notAHandle d.tag d.aliasName)) ++
    x.opaqueTypes.renamings ++
    x.prototypeEvents ++
    x.unmatched.map fun o => Event.outside (.unmatched (Header.excerpt o.text))

end Findings

/-! ### Extraction -/

structure Conventions where
  markers : Markers
  stripPrefix : Text
  deriving DecidableEq, Repr

namespace Conventions

def builtin : Conventions := ⟨Markers.builtin, "Oga"⟩

/-- The conventions with the given markers and prefix, unless a marker cannot be used.
    Prototypes are read without compiling a pattern, so no marker is too long here; the error
    for a pattern that its compiler refuses, such as one above a size limit, is left out. -/
def ofMarkers (m : Markers) (stripPrefix : Text) : Except MarkerError Conventions :=
  match m.error? with
  | some e => .error e
  | none => .ok ⟨m, stripPrefix⟩

def opaqueTypes (ds : List Header.Typedef) : OpaqueTypes :=
  .ofNames ((ds.filter Header.Typedef.isHandle).map (·.aliasName))

/-- The claims of some prototypes to their method stems, typed against the given opaque
    types. -/
def claims (x : Conventions) (opaques : OpaqueTypes) (ps : List Header.Prototype) :
    List StemClaim :=
  claimStems [] (ps.map (·.function opaques x.stripPrefix))

def findings (x : Conventions) (t : Text) : Findings :=
  let ds := Header.typedefs t
  let opaques := opaqueTypes ds
  let found := Header.prototypes x.markers t
  let ps := found.map (·.prototype)
  { opaqueTypes := opaques
    otherTypedefs := ds.filter (!·.isHandle)
    prototypes := ps
    claims := x.claims opaques ps
    unmatched := Header.unmatched x.markers found t }

def extract (x : Conventions) (header : Text) : Extraction :=
  let found := x.findings (Header.normalize header)
  ⟨found.declarations, found.events⟩

end Conventions

end HeaderBindings
