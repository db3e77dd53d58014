import HeaderBindings.Artifact.Table
import HeaderBindings.Formatter
import HeaderBindings.Settings.Toml

/-!
# One run of the generator

A run checks the markers, reads the header, extracts its declarations, renders the two
files, formats them and writes them.  It is written for any monad with `FileAccess`,
so that it can be performed on the files of a machine and on a `FileTree` alike.

A run ends with the first thing that goes wrong.  Nothing is written before the header
has been read and found to yield what was asked for; the file of handles is written
before the file of the function table.

There is no error for a prototype pattern that cannot be compiled, since no pattern is
compiled here (`Conventions.ofMarkers`).
-/

namespace HeaderBindings

/-! ### Errors -/

inductive GenerationError where
  | headerUnreadable (path : Path) (fault : Fault)
  | settingsUnreadable (path : Path) (fault : Fault)
  | settingsMalformed (path : Path)
  | unusableMarker (e : MarkerError)
  | outputDirMissing (path : Path) (fault : Fault)
  | fileUnwritable (path : Path) (fault : Fault)
  /-- Functions were asked for and the header exports none. -/
  | nothingExported (path : Path)
  deriving DecidableEq, Repr

def GenerationError.message : GenerationError → Text
  | .headerUnreadable path fault => "failed to read header " ++ path ++ ": " ++ fault.text
  | .settingsUnreadable path fault => "failed to read config file " ++ path ++ ": " ++ fault.text
  | .settingsMalformed path => "invalid config file " ++ path
  | .unusableMarker e => e.message
  | .outputDirMissing path fault =>
    "failed to create output directory " ++ path ++ ": " ++ fault.text
  | .fileUnwritable path fault => "failed to write " ++ path ++ ": " ++ fault.text
  | .nothingExported path => "no exported functions found in " ++ path

/-! ### Results -/

structure WrittenFile where
  path : Path
  /-- Whether the formatter accepted its source. -/
  accepted : Bool
  deriving DecidableEq, Repr

structure Report where
  package : Text
  handles : Nat
  functions : Nat
  otherTypedefs : Nat
  duplicates : Nat
  unmapped : List Text
  unmatched : Nat
  api : WrittenFile
  funcs : WrittenFile
  deriving DecidableEq, Repr

def Report.written (r : Report) : List Path := [r.api.path, r.funcs.path]

/-- How something that reports events ended. -/
structure Outcome (α : Type) where
  result : Except GenerationError α
  events : List Event

def Outcome.after {α : Type} (events : List Event) (o : Outcome α) : Outcome α :=
  ⟨o.result, events ++ o.events⟩

/-! ### Reading -/

/-- Read the text of a header.  Octets that are no text are replaced. -/
def loadHeader {m : Type → Type} [Monad m] [FileAccess m] (path : Path) : m (Outcome Text) := do
  match ← FileAccess.read path with
  | .error fault => return ⟨.error (.headerUnreadable path fault), []⟩
  | .ok contents =>
    return ⟨.ok (Utf8.decodeLossy contents), [.outside (.headerRead contents.length path)]⟩

def loadSettings {m : Type → Type} [Monad m] [FileAccess m] (path : Path) :
    m (Except GenerationError Settings) := do
  match ← FileAccess.read path with
  | .error fault => return .error (.settingsUnreadable path fault)
  | .ok contents =>
    match Utf8.decode? contents with
    | none => return .error (.settingsUnreadable path .malformedText)
    | some text =>
      match Settings.ofText? text with
      | none => return .error (.settingsMalformed path)
      | some s => return .ok s

/-! ### The generator -/

/-- A run that is ready to be performed. -/
structure Generator where
  options : Options
  source : Text → Extraction
  formatter : Formatter

namespace Generator

/-- The generator for some options, unless a marker cannot be used.  Source is handed to
    the given formatter if the options ask for formatting. -/
def ofOptions (formatter : Formatter) (o : Options) : Except GenerationError Generator :=
  match Conventions.ofMarkers o.markers o.stripPrefix with
  | .error e => .error (.unusableMarker e)
  | .ok x => .ok ⟨o, x.extract, if o.format then formatter else Formatter.identity⟩

def bindings (g : Generator) (d : Declarations) : Bindings where
  headerPath := g.options.header
  package := g.options.effectivePackage
  opaqueTypes := d.opaqueTypes
  functions := d.functions

def apiSource (g : Generator) (d : Declarations) : Text :=
  Artifact.traitFile g.options.runtimeCrate (g.bindings d)

def funcsSource (g : Generator) (d : Declarations) : Text :=
  Artifact.tableFile g.options.runtimeCrate g.options.apiFile (g.bindings d)

def yieldEvents (g : Generator) (d : Declarations) : List Event :=
  let handles := d.opaqueTypes.size
  let functions := d.functions.length
  .outside (.headerYield handles functions g.options.header) ::
    if handles = 0 ∨ functions = 0 then
      [.outside (.barrenHeader handles functions g.options.header)]
    else []

def omissionEvents (g : Generator) (d : Declarations) : List Event :=
  (if 0 < d.unmatched then
    [.outside (.unmatchedTotal d.unmatched g.options.header)] else []) ++
  (if d.unmapped = [] then [] else [.outside (.fellBack d.unmapped)])

section
variable {m : Type → Type} [Monad m] [FileAccess m]

def writeFile (g : Generator) (file source : Text) : m (Outcome WrittenFile) := do
  let path := Path.join g.options.outDir file
  let (out, events) := Formatter.finish g.formatter source file
  match ← FileAccess.write path out.text.utf8 with
  | .error fault => return ⟨.error (.fileUnwritable path fault), events⟩
  | .ok () =>
    return ⟨.ok ⟨path, out.accepted⟩, events ++ [.outside (.fileWritten path)]⟩

def writeFiles (g : Generator) (d : Declarations) : m (Outcome (WrittenFile × WrittenFile)) := do
  match ← FileAccess.createDirs g.options.outDir with
  | .error fault => return ⟨.error (.outputDirMissing g.options.outDir fault), []⟩
  | .ok () =>
    let api ← g.writeFile g.options.apiFile (g.apiSource d)
    match api.result with
    | .error e => return ⟨.error e, api.events⟩
    | .ok apiFile =>
      let funcs ← g.writeFile g.options.funcsFile (g.funcsSource d)
      match funcs.result with
      | .error e => return ⟨.error e, api.events ++ funcs.events⟩
      | .ok funcsFile => return ⟨.ok (apiFile, funcsFile), api.events ++ funcs.events⟩

def report (g : Generator) (d : Declarations) (files : WrittenFile × WrittenFile) : Report where
  package := g.options.effectivePackage
  handles := d.opaqueTypes.size
  functions := d.functions.length
  otherTypedefs := d.otherTypedefs
  duplicates := d.duplicates
  unmapped := d.unmapped
  unmatched := d.unmatched
  api := files.1
  funcs := files.2

/-- Go on with the declarations of the header. -/
def generateFrom (g : Generator) (d : Declarations) : m (Outcome Report) := do
  if d.functions = [] ∧ g.options.requireFunctions then
    return ⟨.error (.nothingExported g.options.header), g.yieldEvents d⟩
  else
    let files ← g.writeFiles d
    return .after (g.yieldEvents d ++ g.omissionEvents d)
      ⟨files.result.map (g.report d), files.events⟩

def run (g : Generator) : m (Outcome Report) := do
  let header ← loadHeader g.options.header
  match header.result with
  | .error e => return ⟨.error e, header.events⟩
  | .ok text =>
    let x := g.source text
    let outcome ← g.generateFrom x.declarations
    return outcome.after (header.events ++ x.events)

end

end Generator

/-- Generate bindings with the built-in reader of headers. -/
def generate {m : Type → Type} [Monad m] [FileAccess m] (formatter : Formatter) (o : Options) :
    m (Outcome Report) := do
  match Generator.ofOptions formatter o with
  | .error e => return ⟨.error e, []⟩
  | .ok g => g.run

end HeaderBindings
