import HeaderBindings.CType
import HeaderBindings.Markers
import HeaderBindings.Proofs.Header.Stripping
import HeaderBindings.Proofs.Text.Pieces
import Mathlib.Data.List.Infix

/-!
# Writing declarations

The converse of reading a header.  A declaration is a typedef or an exported prototype
with the built-in markers, and falls into tokens.  A list of declarations is spelled by
writing its tokens with *gaps* in front of them and one more gap at the end (`spelled`).  A
gap is a list of separators: blanks, block comments and line comments.  It may be empty,
except where two words meet and before the call marker (`IsSpelling`).

Stripping a spelled list leaves the tokens as they are and blanks in the gaps
(`strip_spelled`).
-/

namespace HeaderBindings.Header

/-! ## 1. Separators -/

inductive Separator where
  | blank (c : Char)
  /-- A block comment around the given text. -/
  | block (body : Text)
  /-- A line comment with its line break. -/
  | line (body : Text)
  deriving DecidableEq, Repr

namespace Separator

def text : Separator → Text
  | blank c => [c]
  | block body => '/' :: '*' :: (body ++ ['*', '/'])
  | line body => '/' :: '/' :: (body ++ ['\n'])

/-- The separator ends where its text ends. -/
def IsValid : Separator → Prop
  | blank c => isBlank c = true
  | block body => ¬ ['*', '/'] <:+: body
  | line body => '\n' ∉ body

instance (s : Separator) : Decidable s.IsValid := by
  cases s with
  | blank c => exact inferInstanceAs (Decidable (isBlank c = true))
  | block body => exact inferInstanceAs (Decidable (¬ ['*', '/'] <:+: body))
  | line body => exact inferInstanceAs (Decidable ('\n' ∉ body))

/-- The blank that stripping leaves. -/
def residue : Separator → Char
  | blank c => c
  | block _ => ' '
  | line _ => '\n'

end Separator

theorem after_blockComment {body : Text} {star : Bool} (hbody : ¬ ['*', '/'] <:+: body)
    (hstar : star = true → body.head? ≠ some '/') :
    (Mode.blockComment star).output body = [] ∧
      ∃ star', (Mode.blockComment star).after body = .blockComment star' := by
  induction body generalizing star with
  | nil => exact ⟨rfl, star, rfl⟩
  | cons c body ih =>
    have hstep : (Mode.blockComment star).step c = (.blockComment (c = '*'), []) := by
      rw [Mode.step, if_neg]
      rintro ⟨hs, rfl⟩
      exact hstar hs rfl
    have hslash : decide (c = '*') = true → body.head? ≠ some '/' := by
      intro hc hhead
      obtain rfl : c = '*' := by simpa using hc
      obtain ⟨rest, rfl⟩ : ∃ rest, body = '/' :: rest := by
        cases body with
        | nil => cases hhead
        | cons d rest => exact ⟨rest, by simpa using hhead⟩
      exact hbody ⟨[], rest, rfl⟩
    obtain ⟨ho, star', ha⟩ :=
      ih (fun h => hbody (h.trans (List.suffix_cons c body).isInfix)) hslash
    refine ⟨?_, star', ?_⟩
    · rw [Mode.output_cons, hstep, ho]
      rfl
    · rw [Mode.after_cons, hstep, ha]

/-- Met in code, a block comment is read as one space, and code goes on behind it. -/
theorem read_blockComment {body : Text} (h : (Separator.block body).IsValid) (b : Bool) :
    (Mode.code b).output (Separator.block body).text = [' '] ∧
      (Mode.code b).after (Separator.block body).text = .code false := by
  have hslash : false = true → body.head? ≠ some '/' := fun h => by cases h
  obtain ⟨ho, star, ha⟩ := after_blockComment h hslash
  have hopen : (Mode.code b).after ['/', '*'] = .blockComment false := rfl
  have hspace : (Mode.code b).output ['/', '*'] = [' '] := rfl
  have hsplit : (Separator.block body).text = ['/', '*'] ++ (body ++ ['*', '/']) := rfl
  rw [hsplit, Mode.output_append, Mode.output_append, Mode.after_append, Mode.after_append,
    hopen, hspace, ho, ha]
  -- the star and the slash that close the comment
  cases star with
  | true => exact ⟨rfl, rfl⟩
  | false => exact ⟨rfl, rfl⟩

theorem after_lineComment {body : Text} (hbody : '\n' ∉ body) :
    Mode.lineComment.output body = [] ∧ Mode.lineComment.after body = .lineComment := by
  induction body with
  | nil => exact ⟨rfl, rfl⟩
  | cons c body ih =>
    rw [List.mem_cons, not_or] at hbody
    have hstep : Mode.lineComment.step c = (.lineComment, []) := by
      rw [Mode.step, if_neg]
      exact fun h => hbody.1 h.symm
    obtain ⟨ho, ha⟩ := ih hbody.2
    constructor
    · rw [Mode.output_cons, hstep, ho]
      rfl
    · rw [Mode.after_cons, hstep, ha]

theorem Separator.isBlank_residue {s : Separator} (h : s.IsValid) : isBlank s.residue = true := by
  cases s with
  | blank c => exact h
  | block body => exact (by decide : isBlank ' ' = true)
  | line body => exact (by decide : isBlank '\n' = true)

theorem Separator.stripsTo {s : Separator} (h : s.IsValid) : StripsTo s.text [s.residue] := by
  cases s with
  | blank c =>
    apply stripsTo_plain
    apply isPlain_of_isBlankText
    intro d hd
    obtain rfl : d = c := List.mem_singleton.1 hd
    exact h
  | block body =>
    intro b
    obtain ⟨ho, ha⟩ := read_blockComment h b
    exact ⟨ho, false, ha⟩
  | line body =>
    intro b
    obtain ⟨ho, ha⟩ := after_lineComment h
    have hopen : (Mode.code b).after ['/', '/'] = .lineComment := rfl
    have hnothing : (Mode.code b).output ['/', '/'] = [] := rfl
    have hsplit : Separator.text (line body) = ['/', '/'] ++ (body ++ ['\n']) := rfl
    rw [hsplit, Mode.output_append, Mode.output_append, Mode.after_append, Mode.after_append,
      hopen, hnothing, ho, ha]
    exact ⟨rfl, true, rfl⟩

abbrev Gap := List Separator

namespace Gap

def text (g : Gap) : Text := g.flatMap Separator.text

def IsValid (g : Gap) : Prop := ∀ s ∈ g, s.IsValid

instance (g : Gap) : Decidable g.IsValid := by
  unfold IsValid
  infer_instance

def residue (g : Gap) : Text := g.map Separator.residue

theorem residue_ne_nil {g : Gap} (h : g ≠ []) : g.residue ≠ [] := by
  simpa [residue] using h

theorem isBlankText_residue {g : Gap} (h : g.IsValid) : IsBlankText g.residue := by
  intro c hc
  obtain ⟨s, hs, rfl⟩ := List.mem_map.1 hc
  exact Separator.isBlank_residue (h s hs)

theorem stripsTo {g : Gap} (h : g.IsValid) : StripsTo g.text g.residue := by
  induction g with
  | nil => exact stripsTo_nil
  | cons s g ih =>
    exact (Separator.stripsTo (h s (by simp))).append
      (ih fun r hr => h r (List.mem_cons_of_mem _ hr))

end Gap

/-! ## 2. Tokens -/

inductive Token where
  | word (w : Text)
  | star
  | opening
  | params (t : Text)
  | closing
  | semicolon
  deriving DecidableEq, Repr

namespace Token

def text : Token → Text
  | word w => w
  | star => ['*']
  | opening => ['(']
  | params t => t
  | closing => [')']
  | semicolon => [';']

def isWord : Token → Bool
  | word _ => true
  | _ => false

/-- Must the second token not follow the first one directly? -/
def NeedsGap (k l : Token) : Prop :=
  (k.isWord = true ∧ l.isWord = true) ∨ l = word Markers.builtin.calling

instance (k l : Token) : Decidable (NeedsGap k l) := by
  unfold NeedsGap
  infer_instance

end Token

/-! ## 3. Declarations -/

/-- A C identifier that has no other meaning in a declaration. -/
structure IsCName (w : Text) : Prop where
  ident : IsIdentText w
  not_digit : w.head?.any Char.isDigit = false
  ne_exporting : w ≠ Markers.builtin.exporting
  ne_calling : w ≠ Markers.builtin.calling
  ne_const : w ≠ constWord

instance (w : Text) : Decidable (IsCName w) :=
  decidable_of_iff (IsIdentText w ∧ w.head?.any Char.isDigit = false ∧
      w ≠ Markers.builtin.exporting ∧ w ≠ Markers.builtin.calling ∧ w ≠ constWord)
    ⟨fun ⟨h₁, h₂, h₃, h₄, h₅⟩ => ⟨h₁, h₂, h₃, h₄, h₅⟩,
      fun ⟨h₁, h₂, h₃, h₄, h₅⟩ => ⟨h₁, h₂, h₃, h₄, h₅⟩⟩

inductive TypeToken where
  | word (w : Text)
  | const
  | star
  deriving DecidableEq, Repr

namespace TypeToken

def token : TypeToken → Token
  | word w => .word w
  | const => .word constWord
  | star => .star

/-- The word of a token that names the type. -/
def word? : TypeToken → Option Text
  | word w => some w
  | _ => none

def IsWellFormed : TypeToken → Prop
  | word w => IsCName w
  | _ => True

instance (k : TypeToken) : Decidable k.IsWellFormed := by
  cases k with
  | word w => exact inferInstanceAs (Decidable (IsCName w))
  | const => exact inferInstanceAs (Decidable True)
  | star => exact inferInstanceAs (Decidable True)

end TypeToken

/-- A text that can stand between the parentheses of a prototype. -/
structure IsParamText (t : Text) : Prop where
  ascii : IsAscii t
  plain : IsPlain t
  closing : ')' ∉ t
  semicolon : ';' ∉ t
  exporting : ¬ Markers.builtin.exporting <:+: t
  calling : ¬ Markers.builtin.calling <:+: t

instance (t : Text) : Decidable (IsParamText t) :=
  decidable_of_iff (IsAscii t ∧ IsPlain t ∧ ')' ∉ t ∧ ';' ∉ t ∧
      ¬ Markers.builtin.exporting <:+: t ∧ ¬ Markers.builtin.calling <:+: t)
    ⟨fun ⟨h₁, h₂, h₃, h₄, h₅, h₆⟩ => ⟨h₁, h₂, h₃, h₄, h₅, h₆⟩,
      fun ⟨h₁, h₂, h₃, h₄, h₅, h₆⟩ => ⟨h₁, h₂, h₃, h₄, h₅, h₆⟩⟩

inductive Declaration where
  /-- `typedef struct tag aliasName;` -/
  | typedef (tag aliasName : Text)
  /-- `OGA_EXPORT type OGA_API_CALL name(params);` -/
  | prototype (type : List TypeToken) (name params : Text)
  deriving DecidableEq, Repr

namespace Declaration

def tokens : Declaration → List Token
  | typedef tag aliasName =>
    [.word "typedef", .word "struct", .word tag, .word aliasName, .semicolon]
  | prototype type name params =>
    .word Markers.builtin.exporting :: (type.map TypeToken.token ++
      [.word Markers.builtin.calling, .word name, .opening, .params params, .closing,
        .semicolon])

/-- All names are C identifiers.  A type has a word besides the `const`s and does not
    begin with a star. -/
def IsWellFormed : Declaration → Prop
  | typedef tag aliasName => IsCName tag ∧ IsCName aliasName
  | prototype type name params =>
    (∀ k ∈ type, k.IsWellFormed) ∧ (∃ k ∈ type, k.word?.isSome = true) ∧
      type.head? ≠ some .star ∧ IsCName name ∧ IsParamText params

instance (d : Declaration) : Decidable d.IsWellFormed := by
  cases d with
  | typedef tag aliasName => exact inferInstanceAs (Decidable (IsCName tag ∧ IsCName aliasName))
  | prototype type name params =>
    exact inferInstanceAs (Decidable ((∀ k ∈ type, k.IsWellFormed) ∧
      (∃ k ∈ type, k.word?.isSome = true) ∧ type.head? ≠ some .star ∧ IsCName name ∧
        IsParamText params))

end Declaration

/-! ## 4. Spellings -/

/-- A token and the gap in front of it. -/
structure Piece where
  gap : Gap
  token : Token
  deriving DecidableEq, Repr

namespace Piece

def text (p : Piece) : Text := p.gap.text ++ p.token.text

/-- What stripping leaves of the gap, and the token. -/
def residue (p : Piece) : Text × Text := (p.gap.residue, p.token.text)

end Piece

/-- The pieces and a last gap, written out. -/
def spelled (ps : List Piece) (last : Gap) : Text := ps.flatMap Piece.text ++ last.text

/-- The pieces spell the declarations: their tokens are those of the declarations, and
    there is a gap where one is needed. -/
structure IsSpelling (ds : List Declaration) (ps : List Piece) (last : Gap) : Prop where
  tokens : ps.map (·.token) = ds.flatMap (·.tokens)
  valid : ∀ p ∈ ps, p.gap.IsValid
  last_valid : last.IsValid
  apart : ps.IsChain fun p q => Token.NeedsGap p.token q.token → q.gap ≠ []

theorem isPlain_of_isIdentText {w : Text} (h : IsIdentText w) : IsPlain w := by
  intro c hc
  refine ⟨?_, ?_, ?_, ?_⟩
  all_goals
    rintro rfl
    exact absurd hc (h.not_mem (by decide))

theorem isIdentText_of_mem_type {type : List TypeToken} (h : ∀ k ∈ type, k.IsWellFormed)
    {w : Text} (hw : Token.word w ∈ type.map TypeToken.token) : IsIdentText w := by
  obtain ⟨k, hk, hkw⟩ := List.mem_map.1 hw
  cases k with
  | word v =>
    obtain rfl : v = w := by simpa [TypeToken.token] using hkw
    have hv : IsCName v := h _ hk
    exact hv.ident
  | const =>
    obtain rfl : constWord = w := by simpa [TypeToken.token] using hkw
    decide
  | star => cases hkw

/-- The token of a declaration is a word, a parameter list or a single character. -/
theorem text_cases_of_mem_tokens {d : Declaration} (hd : d.IsWellFormed) {k : Token}
    (hk : k ∈ d.tokens) :
    IsIdentText k.text ∨ IsParamText k.text ∨ k.text ∈ [['*'], ['('], [')'], [';']] := by
  have hident : ∀ w : Text, IsIdentText w → IsIdentText w ∨ IsParamText w ∨
      w ∈ [['*'], ['('], [')'], [';']] := fun _ hw => Or.inl hw
  have hsingle : ∀ w : Text, w ∈ [['*'], ['('], [')'], [';']] → IsIdentText w ∨
      IsParamText w ∨ w ∈ [['*'], ['('], [')'], [';']] := fun _ hw => Or.inr (Or.inr hw)
  cases d with
  | typedef tag aliasName =>
    simp only [Declaration.tokens, List.mem_cons, List.not_mem_nil, or_false] at hk
    rcases hk with rfl | rfl | rfl | rfl | rfl
    · exact hident "typedef" (by decide)
    · exact hident "struct" (by decide)
    · exact hident tag hd.1.ident
    · exact hident aliasName hd.2.ident
    · exact hsingle [';'] (by decide)
  | prototype type name params =>
    obtain ⟨htype, -, -, hname, hparams⟩ := hd
    simp only [Declaration.tokens, List.mem_cons, List.mem_append, List.not_mem_nil,
      or_false] at hk
    rcases hk with rfl | hk | rfl | rfl | rfl | rfl | rfl | rfl
    · exact hident Markers.builtin.exporting (by decide)
    · cases k with
      | word w => exact hident w (isIdentText_of_mem_type htype hk)
      | star => exact hsingle ['*'] (by decide)
      | _ =>
        obtain ⟨k, -, hk⟩ := List.mem_map.1 hk
        cases k <;> cases hk
    · exact hident Markers.builtin.calling (by decide)
    · exact hident name hname.ident
    · exact hsingle ['('] (by decide)
    · exact Or.inr (Or.inl hparams)
    · exact hsingle [')'] (by decide)
    · exact hsingle [';'] (by decide)

theorem isPlain_of_mem_tokens {d : Declaration} (hd : d.IsWellFormed) {k : Token}
    (hk : k ∈ d.tokens) : IsPlain k.text := by
  rcases text_cases_of_mem_tokens hd hk with h | h | h
  · exact isPlain_of_isIdentText h
  · exact h.plain
  · exact (by decide : ∀ t ∈ [['*'], ['('], [')'], [';']], IsPlain t) _ h

theorem isAscii_of_mem_tokens {d : Declaration} (hd : d.IsWellFormed) {k : Token}
    (hk : k ∈ d.tokens) : IsAscii k.text := by
  rcases text_cases_of_mem_tokens hd hk with h | h | h
  · exact h.isAscii
  · exact h.ascii
  · exact (by decide : ∀ t ∈ [['*'], ['('], [')'], [';']], IsAscii t) _ h

theorem stripsTo_pieces {ps : List Piece} (hvalid : ∀ p ∈ ps, p.gap.IsValid)
    (hplain : ∀ p ∈ ps, IsPlain p.token.text) :
    StripsTo (ps.flatMap Piece.text) (Text.laid (ps.map Piece.residue)) := by
  induction ps with
  | nil => exact stripsTo_nil
  | cons p ps ih =>
    have hp := (Gap.stripsTo (hvalid p (by simp))).append (stripsTo_plain (hplain p (by simp)))
    have hps := ih (fun q hq => hvalid q (List.mem_cons_of_mem _ hq))
      (fun q hq => hplain q (List.mem_cons_of_mem _ hq))
    rw [List.map_cons, Text.laid_cons, List.flatMap_cons, ← List.append_assoc]
    exact hp.append hps

/-- **Stripping a spelling** leaves its tokens, with blanks in the gaps. -/
theorem strip_spelled {ds : List Declaration} {ps : List Piece} {last : Gap}
    (hds : ∀ d ∈ ds, d.IsWellFormed) (h : IsSpelling ds ps last) :
    strip (spelled ps last) = Text.laid (ps.map Piece.residue) ++ last.residue := by
  have hplain : ∀ p ∈ ps, IsPlain p.token.text := by
    intro p hp
    have hmem : p.token ∈ ds.flatMap (·.tokens) := by
      rw [← h.tokens]
      exact List.mem_map_of_mem hp
    obtain ⟨d, hd, hmem⟩ := List.mem_flatMap.1 hmem
    exact isPlain_of_mem_tokens (hds d hd) hmem
  exact ((stripsTo_pieces h.valid hplain).append (Gap.stripsTo h.last_valid)).strip_eq

end HeaderBindings.Header
