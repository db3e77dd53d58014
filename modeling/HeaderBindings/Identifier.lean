import HeaderBindings.Text.LetterCase

/-!
# Identifiers of the generated code

Three transformations lead from the name of a native function to the names that
stand for it in Rust source.

* `methodStem` removes a prefix once and then every underscore; the result is the
  method name before escaping.
* `snakeCase` opens a name up into small letters and underscores.  Runs of
  capitals stay together, so `GetOutputID` becomes `get_output_id`.
* `escape` makes a name usable where the language expects an identifier: keywords
  become raw identifiers, path keywords, which have no raw form, get an underscore
  behind, and a name that begins with a digit gets an underscore in front.
-/

namespace HeaderBindings.Identifier

/-! ### The method name -/

/-- A name without the given beginning; a name that is nothing else stays whole. -/
def stripOnce (start name : Text) : Text :=
  match start.isPrefixOf? name with
  | some (c :: rest) => c :: rest
  | _ => name

def withoutUnderscores (name : Text) : Text := name.filter (· != '_')

/-- The method name of a native function before escaping: the prefix is removed once,
    then every underscore. -/
def methodStem (symbol start : Text) : Text :=
  withoutUnderscores (stripOnce start symbol)

/-! ### Snake case -/

/-- Does a capital begin a new part of the name?  It does after a small letter or a
    digit, and when it ends a run of capitals by having a small letter behind it. -/
def opensPart (before after : Option Char) : Bool :=
  before.any (fun p => isLower p || p.isDigit) || (before.any isUpper && after.any isLower)

def snakeChar (before : Option Char) (c : Char) (after : Option Char) : Text :=
  if isUpper c then
    if opensPart before after then '_' :: lowercase c else lowercase c
  else [c]

def snakeFrom (before : Option Char) : Text → Text
  | [] => []
  | c :: rest => snakeChar before c rest.head? ++ snakeFrom (some c) rest

def snakeCase (name : Text) : Text := snakeFrom none name

/-! ### Escaping -/

/-- The keywords that have a raw form. -/
def keywords : List Text :=
  (["as", "async", "await", "break", "const", "continue", "dyn", "else", "enum", "extern",
    "false", "fn", "for", "if", "impl", "in", "let", "loop", "match", "mod", "move", "mut",
    "pub", "ref", "return", "static", "struct", "trait", "true", "type", "unsafe", "use",
    "where", "while", "abstract", "become", "box", "do", "final", "gen", "macro", "override",
    "priv", "try", "typeof", "unsized", "virtual", "yield"] : List String).map String.toList

/-- The keywords of paths, which have no raw form, and the lone underscore. -/
def pathKeywords : List Text :=
  (["self", "Self", "super", "crate", "_"] : List String).map String.toList

def startsWithDigit (name : Text) : Bool := name.head?.any Char.isDigit

def escape (name : Text) : Text :=
  if startsWithDigit name then '_' :: name
  else if name ∈ pathKeywords then name ++ "_"
  else if name ∈ keywords then "r#" ++ name
  else name

/-- A name that needs no escaping. -/
def IsPlain (name : Text) : Prop :=
  startsWithDigit name = false ∧ name ∉ pathKeywords ∧ name ∉ keywords

instance (name : Text) : Decidable (IsPlain name) := by
  unfold IsPlain
  infer_instance

end HeaderBindings.Identifier
