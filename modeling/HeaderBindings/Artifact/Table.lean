import HeaderBindings.Artifact.Trait

/-!
# The file of the function table

The second generated file declares a structure with one function pointer for every
function, a routine that resolves them in a loaded library, and the implementation
of the trait, whose methods hand their arguments on to the pointers.

Fields, resolved symbols and methods come in the order of the functions.  The name of
a field is settled once for the file (`entries`), so that the three places agree.
-/

namespace HeaderBindings.Artifact

/-- The functions, each with the field that holds its pointer. -/
def entries (fs : List Function) : List (Function × Text) := fs.zip (tableFields fs)

def fieldLine (e : Function × Text) : Text :=
  "    " ++ e.2 ++ ": " ++ pointerType e.1 ++ ","

def resolveLine (runtime : Text) (e : Function × Text) : Text :=
  "            " ++ e.2 ++ ": unsafe \x7b " ++ runtime ++ "::resolve(library, \"" ++
    e.1.symbol ++ "\")? \x7d,"

/-- The lines of a method that hands its arguments on. -/
def forwardLines (e : Function × Text) : List Text :=
  ["    " ++ methodSignature e.1 ++ " \x7b",
   "        unsafe \x7b (self." ++ e.2 ++ ")(" ++
     Text.joinWith ", " (argumentNames e.1.params) ++ ") \x7d",
   "    \x7d"]

def tableOpening : List Text :=
  ["/// Function pointers resolved from the native library.",
   "pub struct Funcs \x7b"]

def tableLines (fs : List Function) : List Text :=
  tableOpening ++ (entries fs).map fieldLine ++ (["\x7d", []] : List Text)

/-- The name of the library in the routine that resolves the symbols; it is not used if
    there is no function. -/
def libraryName (fs : List Function) : Text := if fs = [] then "_library" else "library"

def loadOpening (runtime headerTitle library : Text) : List Text :=
  ["impl Funcs \x7b",
   "    /// Resolve every exported symbol from `library`.",
   "    ///",
   "    /// # Safety",
   "    ///",
   "    /// `library` must be the library described by `" ++ headerTitle ++
     "`, and it must stay",
   "    /// loaded for as long as the returned table is used.",
   "    pub unsafe fn load(" ++ library ++ ": &" ++ runtime ++ "::Library) -> " ++ runtime ++
     "::LoadResult<Self> \x7b",
   "        Ok(Self \x7b"]

def loadLines (runtime headerTitle : Text) (fs : List Function) : List Text :=
  loadOpening runtime headerTitle (libraryName fs) ++
    (entries fs).map (resolveLine runtime) ++
    (["        \x7d)", "    \x7d", "\x7d", []] : List Text)

def implLines (fs : List Function) : List Text :=
  if fs = [] then ["impl Api for Funcs \x7b\x7d"]
  else "impl Api for Funcs \x7b" ::
    (spaced ((entries fs).map forwardLines) ++ (["\x7d"] : List Text))

def tableFileLines (runtime apiModule : Text) (b : Bindings) : List Text :=
  banner "Native symbol table" b ++ foreignImports b ++
    ["use super::" ++ apiModule ++ "::*;", []] ++
    tableLines b.functions ++
    loadLines runtime b.headerTitle b.functions ++
    implLines b.functions

def tableFile (runtimeCrate apiFile : Text) (b : Bindings) : Text :=
  Text.unlines (tableFileLines (runtimeRoot runtimeCrate) (siblingModule apiFile) b)

end HeaderBindings.Artifact
