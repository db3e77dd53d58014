import HeaderBindings.Text.Basic

/-!
# Normal form of a header

Declarations are looked for in a text without comments and preprocessor lines, in
which every run of blanks is one space.  `Header.normalize` brings a header into
that form in two steps: `Header.strip` reads it with a scanner that knows in which
kind of place it stands, and `Text.collapse` puts the words that are left on one line.

The scanner's state is a `Mode`.

* In `code` it copies characters, and remembers whether only blanks have been met
  since the last line break; then a `#` opens a directive.
* A `/` is held back as `slash` until the next character shows whether it opens a
  comment.
* A block comment counts as one space.  A line comment and a directive end before a
  line break; a directive goes on after a line break that a backslash precedes, blanks
  between the two notwithstanding.
* A literal is copied up to its closing quote, or up to a line break.

The state after a text is a left fold over its characters, so that scanning a text
in two parts (`strip_append`) is scanning the second part from the state after the
first.
-/

namespace HeaderBindings.Header

inductive Mode where
  /-- Outside of comments, directives and literals.  `lineStart` says that only blanks
      stand between the last line break and here. -/
  | code (lineStart : Bool)
  | slash
  | lineComment
  /-- In a block comment; `star` says that its last character is a `*`. -/
  | blockComment (star : Bool)
  /-- In a directive; `continued` says that its last character that is not blank is a
      backslash. -/
  | directive (continued : Bool)
  /-- In a literal with the given quote; `escaped` says that a backslash precedes. -/
  | literal (quote : Char) (escaped : Bool)
  deriving DecidableEq, Repr

namespace Mode

/-- The scanner begins at the start of a line. -/
def initial : Mode := .code true

/-- Read a character of code: the next state and what is written. -/
def stepCode (lineStart : Bool) (c : Char) : Mode × Text :=
  if c = '/' then (.slash, [])
  else if c = '#' ∧ lineStart then (.directive false, [])
  else if c = '"' ∨ c = '\'' then (.literal c false, [c])
  else (.code (c = '\n' || (lineStart && isBlank c)), [c])

def step : Mode → Char → Mode × Text
  | .code lineStart, c => stepCode lineStart c
  | .slash, c =>
    if c = '/' then (.lineComment, [])
    else if c = '*' then (.blockComment false, [' '])
    else ((stepCode false c).1, '/' :: (stepCode false c).2)
  | .lineComment, c => if c = '\n' then (.code true, ['\n']) else (.lineComment, [])
  | .blockComment star, c =>
    if star ∧ c = '/' then (.code false, []) else (.blockComment (c = '*'), [])
  | .directive continued, c =>
    if c = '\n' then
      if continued then (.directive false, []) else (.code true, ['\n'])
    else if isBlank c then (.directive continued, [])
    else (.directive (c = '\\'), [])
  | .literal quote escaped, c =>
    if escaped then (.literal quote false, [c])
    else if c = '\\' then (.literal quote true, [c])
    else if c = quote ∨ c = '\n' then (.code false, [c])
    else (.literal quote false, [c])

/-- What is written at the end of the text: a slash that was held back. -/
def flush : Mode → Text
  | .slash => ['/']
  | _ => []

def after (m : Mode) (t : Text) : Mode := t.foldl (fun m c => (m.step c).1) m

/-- What is written while a text is read, without its end. -/
def output (m : Mode) : Text → Text
  | [] => []
  | c :: rest => (m.step c).2 ++ output (m.step c).1 rest

/-- Does the scanner stand at the start of something new, given the character ahead?
    It does in code, after a slash that opens no comment, and where a line comment or
    a directive has ended. -/
def atTop (m : Mode) (next : Option Char) : Bool :=
  match m with
  | .code _ => true
  | .slash => next ≠ some '/' && next ≠ some '*'
  | .lineComment => next == some '\n'
  | .directive continued => next == some '\n' && !continued
  | _ => false

end Mode

/-- A header without comments and preprocessor lines. -/
def strip (header : Text) : Text :=
  Mode.initial.output header ++ (Mode.initial.after header).flush

def normalize (header : Text) : Text := Text.collapse (strip header)

namespace Mode

@[simp] theorem after_cons (m : Mode) (c : Char) (t : Text) :
    m.after (c :: t) = (m.step c).1.after t := rfl

@[simp] theorem after_append (m : Mode) (a b : Text) :
    m.after (a ++ b) = (m.after a).after b := by
  simp [after]

@[simp] theorem output_cons (m : Mode) (c : Char) (t : Text) :
    m.output (c :: t) = (m.step c).2 ++ (m.step c).1.output t := rfl

theorem output_append (m : Mode) (a b : Text) :
    m.output (a ++ b) = m.output a ++ (m.after a).output b := by
  induction a generalizing m with
  | nil => rfl
  | cons c a ih => simp [ih]

end Mode

theorem strip_append (a b : Text) :
    strip (a ++ b) = Mode.initial.output a ++ (Mode.initial.after a).output b ++
      ((Mode.initial.after a).after b).flush := by
  simp [strip, Mode.output_append]

end HeaderBindings.Header
