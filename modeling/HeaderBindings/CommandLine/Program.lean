import HeaderBindings.CommandLine.Arguments
import HeaderBindings.Generation
import HeaderBindings.LogFilter

/-!
# The program

One call of the program reads its arguments, loads the settings file if there is one,
generates the bindings and reports on the log.  It ends with the status 0 if all went
well, 1 if the run failed, and 2 if the command line could not be understood.
-/

namespace HeaderBindings.CommandLine

/-- How a call of the program ends. -/
structure Ending where
  status : Nat
  stdout : Text
  log : List Text
  complaint : Option Text
  deriving DecidableEq, Repr

def helpText : Text := Text.unlines [
  "Generate typed Rust bindings from an exported-API C header",
  "",
  "Usage: hdrbind [OPTIONS] --header <PATH> --out <DIR>",
  "",
  "Options:",
  "      --header <PATH>          C header to read",
  "      --out <DIR>              Directory receiving the generated files",
  "      --package <PACKAGE>      Package name recorded in the generated files " ++
    "[default: output directory name]",
  "      --config <FILE>          TOML file with generator settings; flags override " ++
    "its values",
  "      --export-marker <TOKEN>  Macro token before each exported prototype's return type",
  "      --call-marker <TOKEN>    Macro token between the return type and the function name",
  "      --strip-prefix <PREFIX>  Prefix removed from native function names",
  "      --api-file <FILE>        File name of the handle and trait declarations",
  "      --funcs-file <FILE>      File name of the function table",
  "      --runtime-crate <PATH>   Path of the runtime crate used in generated code",
  "      --no-format              Write the generated source without running rustfmt",
  "      --require-functions      Fail if the header declares no exported functions",
  "  -v, --verbose...             Increase log verbosity (-v debug, -vv trace)",
  "  -q, --quiet                  Only log errors",
  "  -h, --help                   Print help",
  "  -V, --version                Print version"]

def versionText : Text := Text.unlines ["hdrbind 0.1.0"]

/-- The filter of a call: the one that the environment names, or else the one that the
    flags ask for. -/
def Invocation.filter (i : Invocation) (named : Option Text) : LogFilter :=
  match named with
  | some name => .ofName name
  | none => .ofVerbosity i.verbose i.quiet

def finishingEvents (r : Report) : List Event :=
  .outside (.finished r.handles r.functions r.package) ::
    ((if 0 < r.duplicates then
      [.outside (.duplicateTotal r.duplicates)] else []) ++
    (if 0 < r.unmatched then
      [.outside (.skippedTotal r.unmatched)] else []))

section
variable {m : Type → Type} [Monad m] [FileAccess m]

def loadOptions (i : Invocation) : m (Except GenerationError Options) := do
  match i.config with
  | none => return .ok (i.options none)
  | some path => return (← loadSettings path).map fun file => i.options (some file)

def perform (formatter : Formatter) (filter : LogFilter) (i : Invocation) : m Ending := do
  match ← loadOptions i with
  | .error e => return ⟨1, [], [], some e.message⟩
  | .ok options =>
    let outcome ← generate formatter options
    match outcome.result with
    | .error e => return ⟨1, [], filter.lines outcome.events, some e.message⟩
    | .ok report =>
      return ⟨0, [], filter.lines (outcome.events ++ finishingEvents report), none⟩

/-- Perform a call of the program, given its arguments and the filter that the
    environment names. -/
def call (formatter : Formatter) (args : List Text) (named : Option Text) : m Ending := do
  match read args with
  | .error _ => return ⟨2, [], [], some "the command line could not be understood"⟩
  | .ok .help => return ⟨0, helpText, [], none⟩
  | .ok .version => return ⟨0, versionText, [], none⟩
  | .ok (.run i) => perform formatter (i.filter named) i

end

end HeaderBindings.CommandLine
