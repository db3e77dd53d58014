import HeaderBindings.CType
import HeaderBindings.Path

/-!
# The log

What happens in a run is reported as a list of events.  A *notice* says what
happened, as data; its level and its wording are functions of it.  The wording is a
sentence, and behind it the fields that a notice may have.  An event is a notice
together with the native function under way, if it lies within one.

So the number of warnings, their order and the functions they belong to can be
counted on the notices, without reading any text.
-/

namespace HeaderBindings

/-- How much an event matters, the most urgent level first. -/
inductive Level where
  | error | warn | info | debug | trace
  deriving DecidableEq, Repr

def Level.rank : Level → Nat
  | .error => 1
  | .warn => 2
  | .info => 3
  | .debug => 4
  | .trace => 5

def Level.text : Level → Text
  | .error => "ERROR"
  | .warn => "WARN"
  | .info => "INFO"
  | .debug => "DEBUG"
  | .trace => "TRACE"

inductive Notice where
  /-- A structure typedef whose tag differs from its alias. -/
  | notAHandle (tag aliasName : Text)
  /-- A handle alias that had to differ from the native name. -/
  | handleRenamed (symbol mapped : Text)
  | unrecognizedType (type : CType)
  | prototypeFound (symbol : Text) (params : Nat)
  | duplicate (symbol stem first : Text)
  /-- An exported declaration that is no prototype. -/
  | unmatched (excerpt : Text)
  | headerRead (size : Nat) (header : Path)
  | headerYield (handles functions : Nat) (header : Path)
  /-- A header that yielded no handles or no functions. -/
  | barrenHeader (handles functions : Nat) (header : Path)
  | unmatchedTotal (count : Nat) (header : Path)
  /-- The base types without a rule. -/
  | fellBack (types : List Text)
  /-- A file that is written as it was rendered, because it could not be formatted. -/
  | formatFailed (file reason : Text)
  | fileWritten (file : Path)
  | finished (handles functions : Nat) (package : Text)
  | duplicateTotal (count : Nat)
  | skippedTotal (count : Nat)
  deriving DecidableEq, Repr

namespace Notice

def level : Notice → Level
  | .notAHandle .. | .prototypeFound .. | .headerRead .. => .debug
  | .handleRenamed .. | .unrecognizedType .. | .duplicate .. | .unmatched .. => .warn
  | .barrenHeader .. | .unmatchedTotal .. | .fellBack .. | .formatFailed .. => .warn
  | .headerYield .. | .fileWritten .. | .finished .. => .info
  | .duplicateTotal .. | .skippedTotal .. => .info

/-- The sentence that a notice makes, without its fields. -/
def message : Notice → Text
  | .notAHandle tag aliasName =>
    "Skipping typedef struct " ++ tag ++ " " ++ aliasName ++ ": not an opaque handle"
  | .handleRenamed symbol mapped =>
    "Opaque type " ++ symbol ++ " clashes with a generated name, emitting it as " ++ mapped
  | .unrecognizedType _ => "unrecognized C type, mapping to usize"
  | .prototypeFound symbol params =>
    "Found " ++ symbol ++ " with " ++ Text.ofNat params ++ " parameter(s)"
  | .duplicate symbol name first =>
    "Skipping " ++ symbol ++ ": generated name " ++ name ++ " already used by " ++ first
  | .unmatched excerpt =>
    "Skipping exported declaration the prototype rule cannot match: " ++ excerpt
  | .headerRead size header =>
    "Read " ++ Text.ofNat size ++ " bytes from " ++ header
  | .headerYield handles functions header =>
    "Found " ++ Text.ofNat handles ++ " opaque type(s) and " ++ Text.ofNat functions ++
      " function(s) in " ++ header
  | .barrenHeader handles functions header =>
    "Header " ++ header ++ " yielded " ++ Text.ofNat handles ++ " opaque type(s) and " ++
      Text.ofNat functions ++ " function(s); check the markers"
  | .unmatchedTotal count header =>
    Text.ofNat count ++ " exported declaration(s) in " ++ header ++
      " were not recognized as prototypes and were skipped"
  | .fellBack types =>
    Text.ofNat types.length ++ " C type(s) fell back to usize: " ++ Text.joinWith ", " types
  | .formatFailed file reason =>
    "Failed to format " ++ file ++ ", writing unformatted source: " ++ reason
  | .fileWritten file => "Generated " ++ file
  | .finished handles functions package =>
    "Wrote " ++ Text.ofNat handles ++ " opaque type(s) and " ++ Text.ofNat functions ++
      " function(s) for package " ++ package
  | .duplicateTotal count => "Dropped " ++ Text.ofNat count ++ " duplicate prototype(s)"
  | .skippedTotal count => "Skipped " ++ Text.ofNat count ++ " unrecognized prototype(s)"

/-- The fields of a notice, which follow its sentence. -/
def fields : Notice → Text
  | .unrecognizedType type => " c_type=" ++ type.text
  | _ => []

def text (n : Notice) : Text := n.message ++ n.fields

end Notice

/-- A notice and the native function it was met in. -/
structure Event where
  within : Option Text
  notice : Notice
  deriving DecidableEq, Repr

namespace Event

def outside (n : Notice) : Event := ⟨none, n⟩

def inside (symbol : Text) (n : Notice) : Event := ⟨some symbol, n⟩

def level (e : Event) : Level := e.notice.level

def text (e : Event) : Text := e.notice.text

end Event

end HeaderBindings
