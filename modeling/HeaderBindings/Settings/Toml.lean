import HeaderBindings.Options

/-!
# Settings files

A settings file is a TOML document whose keys are the nine settings and whose values
are strings and booleans.  A document with any other key or any other kind of value
is refused whatever it says elsewhere, so the reader knows no tables, arrays, numbers
or dates: where one of them begins, the document is no settings file.

Of what remains the reader takes everything that TOML allows: comments, blank lines,
line breaks with and without a carriage return, bare and quoted keys, and strings in
all four forms, basic and literal, on one line and on several.  No key may be given
twice.

Each reader returns what it has read and the rest of the text.
-/

namespace HeaderBindings.Toml

inductive Value where
  | string (s : Text)
  | boolean (b : Bool)
  deriving DecidableEq, Repr

/-! ### Characters -/

def isLineBlank (c : Char) : Bool := c == ' ' || c == '\t'

/-- The characters that may stand in comments and strings: all but the control
    characters of ASCII, among which only the tabulator is allowed. -/
def isPrintable (c : Char) : Bool :=
  c == '\t' || (0x20 ≤ c.toNat && c.toNat ≤ 0x7E) || 0x80 ≤ c.toNat

def isBareKeyChar (c : Char) : Bool := c.isAlphanum || c == '-' || c == '_'

def skipBlanks (t : Text) : Text := t.dropWhile isLineBlank

def lineBreak? : Text → Option Text
  | '\n' :: rest => some rest
  | '\r' :: '\n' :: rest => some rest
  | _ => none

/-- What follows a comment, if the text begins with one.  A comment may hold any
    character but a control character. -/
def skipComment : Text → Text
  | '#' :: rest => rest.dropWhile isPrintable
  | t => t

/-- What follows the end of a line: blanks, a comment, and a line break unless the
    text ends there. -/
def lineEnd? (t : Text) : Option Text :=
  match skipComment (skipBlanks t) with
  | [] => some []
  | rest => lineBreak? rest

/-! ### Strings -/

def prepend (c : Char) (r : Option (Text × Text)) : Option (Text × Text) :=
  r.map fun (s, rest) => (c :: s, rest)

def escaped? : Char → Option Char
  | 'b' => some (Char.ofNat 8)
  | 't' => some '\t'
  | 'n' => some '\n'
  | 'f' => some (Char.ofNat 12)
  | 'r' => some '\r'
  | '"' => some '"'
  | '\\' => some '\\'
  | _ => none

def hexDigit? (c : Char) : Option Nat :=
  if c.isDigit then some (c.toNat - 0x30)
  else if 'a' ≤ c ∧ c ≤ 'f' then some (c.toNat - 0x61 + 10)
  else if 'A' ≤ c ∧ c ≤ 'F' then some (c.toNat - 0x41 + 10)
  else none

def codePoint? (digits : Text) : Option Char := do
  let n ← digits.foldlM (fun n c => (hexDigit? c).map (n * 16 + ·)) 0
  if n.isValidChar then some (Char.ofNat n) else none

/-- Read a basic string after its opening quote. -/
def basic? : Text → Option (Text × Text)
  | [] => none
  | '"' :: rest => some ([], rest)
  | '\\' :: 'u' :: a :: b :: c :: d :: rest =>
    (codePoint? [a, b, c, d]).bind fun ch => prepend ch (basic? rest)
  | '\\' :: 'U' :: a :: b :: c :: d :: e :: f :: g :: h :: rest =>
    (codePoint? [a, b, c, d, e, f, g, h]).bind fun ch => prepend ch (basic? rest)
  | '\\' :: e :: rest => (escaped? e).bind fun ch => prepend ch (basic? rest)
  | c :: rest => if isPrintable c && c ≠ '\\' then prepend c (basic? rest) else none

/-- Does a line break follow, after blanks at most? -/
def endsLine (t : Text) : Bool := (lineBreak? (skipBlanks t)).isSome

/-- Read a basic string of several lines after its opening quotes.  While `folding`,
    blanks and line breaks are skipped: they follow a backslash at the end of a line.
    Up to two quotes may stand right before the closing ones. -/
def multiBasic? (folding : Bool) : Text → Option (Text × Text)
  | [] => none
  | '"' :: '"' :: '"' :: '"' :: '"' :: rest => some (['"', '"'], rest)
  | '"' :: '"' :: '"' :: '"' :: rest => some (['"'], rest)
  | '"' :: '"' :: '"' :: rest => some ([], rest)
  | '\r' :: '\n' :: rest =>
    if folding then multiBasic? true rest else prepend '\n' (multiBasic? false rest)
  | '\\' :: 'u' :: a :: b :: c :: d :: rest =>
    (codePoint? [a, b, c, d]).bind fun ch => prepend ch (multiBasic? false rest)
  | '\\' :: 'U' :: a :: b :: c :: d :: e :: f :: g :: h :: rest =>
    (codePoint? [a, b, c, d, e, f, g, h]).bind fun ch => prepend ch (multiBasic? false rest)
  | '\\' :: e :: rest =>
    if endsLine (e :: rest) then multiBasic? true rest
    else (escaped? e).bind fun ch => prepend ch (multiBasic? false rest)
  | c :: rest =>
    if c = '\n' ∨ isLineBlank c then
      if folding then multiBasic? true rest else prepend c (multiBasic? false rest)
    else if isPrintable c && c ≠ '\\' then prepend c (multiBasic? false rest)
    else none

def literal? : Text → Option (Text × Text)
  | [] => none
  | '\'' :: rest => some ([], rest)
  | c :: rest => if isPrintable c then prepend c (literal? rest) else none

def multiLiteral? : Text → Option (Text × Text)
  | [] => none
  | '\'' :: '\'' :: '\'' :: '\'' :: '\'' :: rest => some (['\'', '\''], rest)
  | '\'' :: '\'' :: '\'' :: '\'' :: rest => some (['\''], rest)
  | '\'' :: '\'' :: '\'' :: rest => some ([], rest)
  | '\r' :: '\n' :: rest => prepend '\n' (multiLiteral? rest)
  | c :: rest =>
    if c = '\n' ∨ isPrintable c then prepend c (multiLiteral? rest) else none

def skipLineBreak (t : Text) : Text := (lineBreak? t).getD t

/-! ### Keys, values and documents -/

def value? : Text → Option (Value × Text)
  | '"' :: '"' :: '"' :: rest => stringValue (multiBasic? false (skipLineBreak rest))
  | '"' :: rest => stringValue (basic? rest)
  | '\'' :: '\'' :: '\'' :: rest => stringValue (multiLiteral? (skipLineBreak rest))
  | '\'' :: rest => stringValue (literal? rest)
  | 't' :: 'r' :: 'u' :: 'e' :: rest => some (.boolean true, rest)
  | 'f' :: 'a' :: 'l' :: 's' :: 'e' :: rest => some (.boolean false, rest)
  | _ => none
where
  stringValue (r : Option (Text × Text)) : Option (Value × Text) :=
    r.map fun (s, rest) => (.string s, rest)

def key? : Text → Option (Text × Text)
  | '"' :: rest => basic? rest
  | '\'' :: rest => literal? rest
  | t =>
    match t.span isBareKeyChar with
    | ([], _) => none
    | (name, rest) => some (name, rest)

def keyValue? (t : Text) : Option ((Text × Value) × Text) := do
  let (name, t) ← key? t
  match skipBlanks t with
  | '=' :: t =>
    let (v, t) ← value? (skipBlanks t)
    let t ← lineEnd? t
    return ((name, v), t)
  | _ => none

/-- Read a line: the entry on it, if it holds one, and what follows the line. -/
def line? (t : Text) : Option (Option (Text × Value) × Text) :=
  match lineEnd? t with
  | some rest => some (none, rest)
  | none => (keyValue? (skipBlanks t)).map fun (e, rest) => (some e, rest)

/-- Read the entries of all lines.  Every line is shorter than the text it begins; one
    that were not would end the reading. -/
def entries? (t : Text) : Option (List (Text × Value)) :=
  if t = [] then some []
  else match line? t with
    | none => none
    | some (e, rest) =>
      if rest.length < t.length then (entries? rest).map (e.toList ++ ·) else none
termination_by t.length

def byteOrderMark : Char := Char.ofNat 0xFEFF

/-- Read a document that has keys with strings and booleans for values. -/
def document? : Text → Option (List (Text × Value))
  | [] => some []
  | c :: rest => if c = byteOrderMark then entries? rest else entries? (c :: rest)

end HeaderBindings.Toml

namespace HeaderBindings.Settings

/-- Set one more value, if the key is known, was not set before and has a value of its
    kind. -/
def set? (s : Settings) (entry : Text × Toml.Value) : Option Settings :=
  match entry with
  | (name, .string v) =>
    if name = ("package" : Text) ∧ s.package.isNone then
      some { s with package := some v }
    else if name = ("export_marker" : Text) ∧ s.exportMarker.isNone then
      some { s with exportMarker := some v }
    else if name = ("call_marker" : Text) ∧ s.callMarker.isNone then
      some { s with callMarker := some v }
    else if name = ("strip_prefix" : Text) ∧ s.stripPrefix.isNone then
      some { s with stripPrefix := some v }
    else if name = ("api_file" : Text) ∧ s.apiFile.isNone then
      some { s with apiFile := some v }
    else if name = ("funcs_file" : Text) ∧ s.funcsFile.isNone then
      some { s with funcsFile := some v }
    else if name = ("runtime_crate" : Text) ∧ s.runtimeCrate.isNone then
      some { s with runtimeCrate := some v }
    else .none
  | (name, .boolean v) =>
    if name = ("format" : Text) ∧ s.format.isNone then
      some { s with format := some v }
    else if name = ("require_functions" : Text) ∧ s.requireFunctions.isNone then
      some { s with requireFunctions := some v }
    else .none

/-- The layer that a settings file describes, if the text is one. -/
def ofText? (t : Text) : Option Settings :=
  (Toml.document? t).bind fun entries => entries.foldlM set? none

end HeaderBindings.Settings
