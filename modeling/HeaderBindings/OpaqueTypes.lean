import HeaderBindings.Event
import HeaderBindings.Identifier
import HeaderBindings.Names
import HeaderBindings.Search

/-!
# Opaque types

An opaque type is a structure that a header names and never shows.  Generated code
refers to it by a handle alias and tells its handles from others by a marker enum,
whose name is the alias followed by `Kind`.

`OpaqueTypes` is a set of them, at most one for each native name, in increasing
order of native names.  `OpaqueTypes.ofNames` builds the set from native names
alone and chooses the aliases: each is the native name followed by the least
number of copies of `Handle` that makes it and its marker free of the names chosen
before and of the other items of generated files, and makes it no keyword.  A native
name that begins with a digit cannot be made an alias in this way.
-/

namespace HeaderBindings

/-- An opaque type: the name a header gives it and the name of its handle alias. -/
structure OpaqueType where
  name : Text
  handle : Text
  deriving DecidableEq, Repr

namespace OpaqueType

def ofName (name : Text) : OpaqueType := ⟨name, name⟩

/-- The name of the marker enum that belongs to an alias. -/
def markerName (handle : Text) : Text := handle ++ "Kind"

def marker (o : OpaqueType) : Text := markerName o.handle

end OpaqueType

structure OpaqueTypes where
  entries : List OpaqueType
  deriving DecidableEq, Repr

namespace OpaqueTypes

/-! ### The set -/

def empty : OpaqueTypes := ⟨[]⟩

/-- Put an opaque type before the first entry with a greater native name, unless an
    entry has its native name. -/
def insertEntry (o : OpaqueType) : List OpaqueType → List OpaqueType
  | [] => [o]
  | e :: es =>
    if o.name < e.name then o :: e :: es
    else if o.name = e.name then e :: es
    else e :: insertEntry o es

def get? (s : OpaqueTypes) (name : Text) : Option OpaqueType :=
  s.entries.find? (·.name = name)

def contains (s : OpaqueTypes) (name : Text) : Bool := (s.get? name).isSome

/-- Add an opaque type, and say whether its native name was new.  If it was not,
    the set stays as it is. -/
def insert (s : OpaqueTypes) (o : OpaqueType) : Bool × OpaqueTypes :=
  if s.contains o.name then (false, s) else (true, ⟨insertEntry o s.entries⟩)

/-- The set of the given opaque types; of two with one native name the first stays. -/
def ofList (os : List OpaqueType) : OpaqueTypes :=
  os.foldl (fun s o => (s.insert o).2) empty

def size (s : OpaqueTypes) : Nat := s.entries.length

/-! ### Choosing aliases -/

/-- The names that generated files declare or import besides the aliases and their
    markers. -/
def reservedItems : List Text :=
  (["Api", "Funcs", "c_char", "c_void"] : List String).map String.toList

def IsFree (taken : List Text) (name : Text) : Prop :=
  name ∉ taken ∧ OpaqueType.markerName name ∉ taken ∧ Identifier.IsPlain name

instance (taken : List Text) (name : Text) : Decidable (IsFree taken name) := by
  unfold IsFree
  infer_instance

/-- The native name followed by the given number of copies of `Handle`. -/
def candidate (name : Text) (copies : Nat) : Text :=
  name ++ (List.replicate copies ("Handle" : Text)).flatten

/-- Every taken name rules out two candidates at most and the keywords rule out one,
    so that one of this many candidates is free unless the name begins with a digit. -/
def candidateBound (taken : List Text) : Nat := 2 * taken.length + 2

/-- The first free candidate.  A name that begins with a digit has none: the choice of its
    alias never ends, and the value here is the candidate at the bound and means nothing
    (`OpaqueTypes.renames_iff`). -/
def aliasFor (taken : List Text) (name : Text) : Text :=
  candidate name <|
    leastBelow (candidateBound taken) fun copies => IsFree taken (candidate name copies)

/-- The opaque types of native names in the given order, each with the alias that the
    names taken before leave to it. -/
def assign (taken : List Text) : List Text → List OpaqueType
  | [] => []
  | name :: rest =>
    let o : OpaqueType := ⟨name, aliasFor taken name⟩
    o :: assign (o.handle :: o.marker :: taken) rest

def ofNames (natives : List Text) : OpaqueTypes :=
  ⟨assign reservedItems (Names.sorted natives)⟩

def renamings (s : OpaqueTypes) : List Event :=
  (s.entries.filter fun o => o.handle ≠ o.name).map fun o =>
    Event.outside (.handleRenamed o.name o.handle)

end OpaqueTypes

end HeaderBindings
