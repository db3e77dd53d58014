import HeaderBindings.Event
import HeaderBindings.Text.Extender

/-!
# Showing the log

A filter lets the events through that are at least as urgent as its level, or none at
all.  An event is shown as one line: its level, the function it belongs to, and its
wording.  The function is mentioned only under a filter that lets debug events
through, because entering a function is a matter of that level.

Names and sentences come from headers and command lines, so that they may hold any
character.  In the name of a function whatever cannot be seen by itself is written by
its code point (`quotedChar`); in a sentence the control characters that could steer a
terminal are spelled out (`shownChar`).
-/

namespace HeaderBindings

/-- The least urgent level that is shown, if anything is. -/
structure LogFilter where
  level : Option Level
  deriving DecidableEq, Repr

namespace LogFilter

def allows (f : LogFilter) (l : Level) : Bool := f.level.any fun max => l.rank ≤ max.rank

/-- The filter with the given name, in any mixture of capitals and small letters, or
    with the number of its level.  The empty name is that of the errors; any other word
    is taken for the name of a part of some program, and lets nothing of this one
    through. -/
def ofName (name : Text) : LogFilter :=
  let name := name.map Char.toLower
  if name = [] ∨ name = ("error" : Text) ∨ name = ("1" : Text) then ⟨some .error⟩
  else if name = ("warn" : Text) ∨ name = ("2" : Text) then ⟨some .warn⟩
  else if name = ("info" : Text) ∨ name = ("3" : Text) then ⟨some .info⟩
  else if name = ("debug" : Text) ∨ name = ("4" : Text) then ⟨some .debug⟩
  else if name = ("trace" : Text) ∨ name = ("5" : Text) then ⟨some .trace⟩
  else ⟨none⟩

def ofVerbosity (verbose : Nat) (quiet : Bool) : LogFilter :=
  if quiet then ⟨some .error⟩
  else if verbose = 0 then ⟨some .info⟩
  else if verbose = 1 then ⟨some .debug⟩
  else ⟨some .trace⟩

def bracedCode (c : Char) : Text := "\\u\x7b" ++ Nat.toDigits 16 c.toNat ++ "\x7d"

/-- A character of a name between quotes.  What cannot be seen by itself is written by
    its code point. -/
def quotedChar (c : Char) : Text := if isSelfStanding c then [c] else bracedCode c

/-- The control characters of ASCII that a terminal could obey, with their spellings. -/
def controlSpellings : List (Char × Text) :=
  ([(7, "\\x07"), (8, "\\x08"), (12, "\\x0c"), (27, "\\x1b"), (127, "\\x7f")] :
    List (Nat × String)).map fun (n, s) => (Char.ofNat n, s.toList)

/-- A character of a message.  Control characters that a terminal could obey are
    spelled out, also those above the ASCII characters. -/
def shownChar (c : Char) : Text :=
  match controlSpellings.lookup c with
  | some spelling => spelling
  | none => if 0x80 ≤ c.toNat ∧ c.toNat ≤ 0x9F then bracedCode c else [c]

def functionText (symbol : Text) : Text :=
  "function\x7bname=\"" ++ symbol.flatMap quotedChar ++ "\"\x7d: "

/-- The line of an event.  Its fields are written as they are. -/
def line (f : LogFilter) (e : Event) : Text :=
  let mention : Text :=
    match e.within with
    | some symbol => if f.allows .debug then functionText symbol else []
    | none => []
  e.level.text ++ " " ++ mention ++ e.notice.message.flatMap shownChar ++ e.notice.fields

def lines (f : LogFilter) (events : List Event) : List Text :=
  (events.filter fun e => f.allows e.level).map f.line

end LogFilter

end HeaderBindings
