import HeaderBindings.Options

/-!
# Command-line arguments

Arguments are read from left to right.  Flags with a value take it after an equals
sign or as the next argument, which must not look like a flag itself; short flags can
be written together behind one dash.  Everything but `-v` may be given once only.

The first thing that is wrong ends the reading, and so does a request for help or for
the version; whatever stands behind it is not looked at.  Only at the end is it
checked that both paths are there and that no two flags contradict each other.
-/

namespace HeaderBindings.CommandLine

inductive ValueFlag where
  | header | out | package | config | exportMarker | callMarker | stripPrefix
  | apiFile | funcsFile | runtimeCrate
  deriving DecidableEq, Repr

inductive Switch where
  | noFormat | requireFunctions | verbose | quiet | help | version
  deriving DecidableEq, Repr

inductive UsageError where
  | unknownFlag (flag : Text)
  | unexpectedArgument (arg : Text)
  | missingValue (flag : ValueFlag)
  | emptyPath (flag : ValueFlag)
  | unexpectedValue (flag : Switch)
  | repeatedValue (flag : ValueFlag)
  | repeatedSwitch (flag : Switch)
  | required (flag : ValueFlag)
  /-- More detail and errors only were both asked for. -/
  | contradiction
  deriving DecidableEq, Repr

def ValueFlag.ofName? (name : Text) : Option ValueFlag :=
  if name = ("header" : Text) then some .header
  else if name = ("out" : Text) then some .out
  else if name = ("package" : Text) then some .package
  else if name = ("config" : Text) then some .config
  else if name = ("export-marker" : Text) then some .exportMarker
  else if name = ("call-marker" : Text) then some .callMarker
  else if name = ("strip-prefix" : Text) then some .stripPrefix
  else if name = ("api-file" : Text) then some .apiFile
  else if name = ("funcs-file" : Text) then some .funcsFile
  else if name = ("runtime-crate" : Text) then some .runtimeCrate
  else none

def ValueFlag.isPath : ValueFlag → Bool
  | .header | .out | .config => true
  | _ => false

def Switch.ofName? (name : Text) : Option Switch :=
  if name = ("no-format" : Text) then some .noFormat
  else if name = ("require-functions" : Text) then some .requireFunctions
  else if name = ("verbose" : Text) then some .verbose
  else if name = ("quiet" : Text) then some .quiet
  else if name = ("help" : Text) then some .help
  else if name = ("version" : Text) then some .version
  else none

def Switch.ofLetter? : Char → Option Switch
  | 'v' => some .verbose
  | 'q' => some .quiet
  | 'h' => some .help
  | 'V' => some .version
  | _ => none

/-! ### Collecting flags -/

structure Given where
  values : List (ValueFlag × Text)
  switches : List Switch
  deriving DecidableEq, Repr

/-- The flags of a call that set something of a run.  Formatting can only be switched off and
    the demand for functions only on. -/
structure Flags where
  package : Option Text
  exportMarker : Option Text
  callMarker : Option Text
  stripPrefix : Option Text
  apiFile : Option Text
  funcsFile : Option Text
  runtimeCrate : Option Text
  noFormat : Bool
  requireFunctions : Bool
  deriving DecidableEq, Repr

/-- The given options, with the flags in place of what they set. -/
def Flags.override (f : Flags) (o : Options) : Options :=
  { o with
    package := f.package.or o.package
    markers := ⟨f.exportMarker.getD o.markers.exporting, f.callMarker.getD o.markers.calling⟩
    stripPrefix := f.stripPrefix.getD o.stripPrefix
    apiFile := f.apiFile.getD o.apiFile
    funcsFile := f.funcsFile.getD o.funcsFile
    runtimeCrate := f.runtimeCrate.getD o.runtimeCrate
    format := if f.noFormat then false else o.format
    requireFunctions := if f.requireFunctions then true else o.requireFunctions }

structure Invocation where
  header : Path
  out : Path
  config : Option Path
  flags : Flags
  /-- How often more detail was asked for. -/
  verbose : Nat
  quiet : Bool
  deriving DecidableEq, Repr

inductive Request where
  | help
  | version
  | run (i : Invocation)
  deriving DecidableEq, Repr

namespace Given

def value? (g : Given) (f : ValueFlag) : Option Text := (g.values.find? (·.1 = f)).map (·.2)

def has (g : Given) (s : Switch) : Bool := s ∈ g.switches

def addValue (g : Given) (f : ValueFlag) (v : Text) : Except UsageError Given :=
  if (g.value? f).isSome then .error (.repeatedValue f)
  else if f.isPath ∧ v = [] then .error (.emptyPath f)
  else .ok { g with values := g.values ++ [(f, v)] }

/-- Add a switch.  Only the request for more detail may be repeated. -/
def addSwitch (g : Given) (s : Switch) : Except UsageError Given :=
  if s ≠ .verbose ∧ g.has s then .error (.repeatedSwitch s)
  else .ok { g with switches := g.switches ++ [s] }

def flags (g : Given) : Flags where
  package := g.value? .package
  exportMarker := g.value? .exportMarker
  callMarker := g.value? .callMarker
  stripPrefix := g.value? .stripPrefix
  apiFile := g.value? .apiFile
  funcsFile := g.value? .funcsFile
  runtimeCrate := g.value? .runtimeCrate
  noFormat := g.has .noFormat
  requireFunctions := g.has .requireFunctions

def invocation (g : Given) : Except UsageError Invocation :=
  match g.value? .header, g.value? .out with
  | none, _ => .error (.required .header)
  | some _, none => .error (.required .out)
  | some header, some out =>
    if g.has .verbose ∧ g.has .quiet then .error .contradiction
    else .ok {
      header := header
      out := out
      config := g.value? .config
      flags := g.flags
      verbose := g.switches.count .verbose
      quiet := g.has .quiet }

end Given

/-! ### Reading arguments -/

/-- What reading one argument leads to: more to read, or an answer at once. -/
inductive Progress where
  | more (g : Given)
  | answer (r : Request)
  deriving DecidableEq, Repr

def readSwitch (g : Given) : Switch → Except UsageError Progress
  | .help => .ok (.answer .help)
  | .version => .ok (.answer .version)
  | s => (g.addSwitch s).map .more

/-- Read short flags that are written together. -/
def readLetters (g : Given) : Text → Except UsageError Progress
  | [] => .ok (.more g)
  | c :: rest =>
    match Switch.ofLetter? c with
    | none => .error (.unknownFlag ['-', c])
    | some s =>
      match readSwitch g s with
      | .ok (.more g) => readLetters g rest
      | done => done

/-- Could an argument be a flag?  A single dash is none. -/
def looksLikeFlag (arg : Text) : Bool := arg.head? = some '-' && arg ≠ ['-']

def splitValue (flag : Text) : Text × Option Text :=
  match flag.span (· ≠ '=') with
  | (name, []) => (name, none)
  | (name, _ :: value) => (name, some value)

/-- Read a long flag that needs no further argument; `none` if it needs one. -/
def readLong (g : Given) (flag : Text) : Except UsageError (Progress ⊕ ValueFlag) :=
  let (name, value) := splitValue flag
  match ValueFlag.ofName? name, Switch.ofName? name, value with
  | some f, _, some v => (g.addValue f v).map (.inl <| .more ·)
  | some f, _, none => .ok (.inr f)
  | none, some s, none => (readSwitch g s).map .inl
  | none, some s, some _ => .error (.unexpectedValue s)
  | none, none, _ => .error (.unknownFlag ("--" ++ name))

def readFrom (g : Given) : List Text → Except UsageError Request
  | [] => g.invocation.map .run
  | arg :: rest =>
    match arg with
    | ['-', '-'] =>
      match rest with
      | [] => g.invocation.map .run
      | extra :: _ => .error (.unexpectedArgument extra)
    | '-' :: '-' :: flag =>
      match readLong g flag with
      | .error e => .error e
      | .ok (.inl (.answer r)) => .ok r
      | .ok (.inl (.more g)) => readFrom g rest
      | .ok (.inr f) =>
        match rest with
        | [] => .error (.missingValue f)
        | v :: rest =>
          if looksLikeFlag v then .error (.missingValue f)
          else match g.addValue f v with
            | .error e => .error e
            | .ok g => readFrom g rest
    | '-' :: c :: letters =>
      match readLetters g (c :: letters) with
      | .error e => .error e
      | .ok (.answer r) => .ok r
      | .ok (.more g) => readFrom g rest
    | arg => .error (.unexpectedArgument arg)

def read (args : List Text) : Except UsageError Request := readFrom ⟨[], []⟩ args

/-- The options of a run: the built-in conventions, then the settings file if there is one,
    then the flags. -/
def Invocation.options (i : Invocation) (file : Option Settings) : Options :=
  let start := Options.ofPaths i.header i.out
  match file with
  | none => i.flags.override start
  | some s => i.flags.override (start.apply s)

end HeaderBindings.CommandLine
