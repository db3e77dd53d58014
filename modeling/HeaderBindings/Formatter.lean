import HeaderBindings.Event
import HeaderBindings.Storage.Access

/-!
# Formatting generated source

A formatter turns source into formatted source or fails.  Formatting is a courtesy: if
it fails, the source is written as it was rendered and a warning says why
(`Formatter.finish`), so that no formatter decides whether a run succeeds.
-/

namespace HeaderBindings

inductive FormatFault where
  | unavailable (fault : Fault)
  | rejected (reason : Text)
  deriving DecidableEq, Repr

def FormatFault.text : FormatFault → Text
  | .unavailable fault => "failed to run rustfmt: " ++ fault.text
  | .rejected reason => "rustfmt rejected the generated source: " ++ reason

/-- A formatter of source text. -/
abbrev Formatter := Text → Except FormatFault Text

structure ProgramOutput where
  stdout : Bytes
  stderr : Bytes
  exitCode : Nat
  deriving DecidableEq, Repr

namespace Formatter

def identity : Formatter := .ok

/-- The formatter whose program does not exist. -/
def missing : Formatter := fun _ => .error (.unavailable .notFound)

def programArguments : List Text := ["--edition", "2021", "--emit", "stdout"]

/-- The formatter that pipes source through a program.  The program refuses the source
    by an exit code other than zero, and gives its reason on standard error. -/
def ofProgram (run : Text → ProgramOutput) : Formatter := fun source =>
  let out := run source
  if out.exitCode = 0 then .ok (Utf8.decodeLossy out.stdout)
  else .error (.rejected (Text.trim (Utf8.decodeLossy out.stderr)))

end Formatter

structure Finished where
  text : Text
  /-- Whether the formatter accepted the source. -/
  accepted : Bool
  deriving DecidableEq, Repr

/-- Format the source of a file, or keep it as it is and report why. -/
def Formatter.finish (f : Formatter) (source file : Text) : Finished × List Event :=
  match f source with
  | .ok text => (⟨text, true⟩, [])
  | .error fault => (⟨source, false⟩, [.outside (.formatFailed file fault.text)])

end HeaderBindings
