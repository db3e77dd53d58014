import HeaderBindings.Artifact.Bindings

/-!
# The file of handles and methods

The first generated file declares, for every opaque type, a marker enum and a handle
alias, and then the trait with one method for every function.
-/

namespace HeaderBindings.Artifact

def handleLines (runtime : Text) (o : OpaqueType) : List Text :=
  ["/// Marker for the `" ++ o.name ++ "` handle kind.",
   "pub enum " ++ o.marker ++ " \x7b\x7d",
   [],
   "/// Opaque handle to a native `" ++ o.name ++ "`.",
   "pub type " ++ o.handle ++ " = " ++ runtime ++ "::Handle<" ++ o.marker ++ ">;",
   []]

def methodLines (f : Function) : List Text :=
  ["    /// Calls `" ++ f.symbol ++ "`.",
   "    " ++ methodSignature f ++ ";"]

/-- Groups of lines with an empty line between two groups. -/
def spaced (groups : List (List Text)) : List Text := [[]].intercalate groups

def traitLines (fs : List Function) : List Text :=
  if fs = [] then ["pub trait Api \x7b\x7d"]
  else "pub trait Api \x7b" :: (spaced (fs.map methodLines) ++ (["\x7d"] : List Text))

def traitFileLines (runtime : Text) (b : Bindings) : List Text :=
  banner "Native API surface" b ++ foreignImports b ++
    b.opaqueTypes.entries.flatMap (handleLines runtime) ++
    ["/// Functions exported by `" ++ b.headerTitle ++ "`."] ++
    traitLines b.functions

def traitFile (runtimeCrate : Text) (b : Bindings) : Text :=
  Text.unlines (traitFileLines (runtimeRoot runtimeCrate) b)

end HeaderBindings.Artifact
