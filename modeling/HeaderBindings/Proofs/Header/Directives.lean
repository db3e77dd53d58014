import HeaderBindings.Proofs.Header.Spelling

/-!
# The start of a line

A hash opens a preprocessor line where only blanks stand between it and the last line break.
The scanner keeps track of that while it copies code, and here is what becomes of a line that
begins with a hash and of a block comment, for every text around them.

Two modes of code differ only in whether a hash that comes next opens a preprocessor line
(`read_code_congr`).  So a text is read on in one way from both unless it begins with such a
hash, and this is all that there is to the two laws:

* a preprocessor line leaves its line break and nothing else (`normalize_directive`), unless
  the line break in front of it closes a literal: then the scanner is not told that a line
  begins;
* a block comment is read as one space (`normalize_spaceForComment`), unless it is all that
  stands in front of a hash on its line: a comment counts as code, and a space does not.

Where a law fails, the hash and all behind it are read as code.
-/

namespace HeaderBindings.Header

/-! ## 1. Reading on -/

namespace Mode

/-- What is written for the rest of a text, its end included. -/
def read (m : Mode) (t : Text) : Text := m.output t ++ (m.after t).flush

theorem read_append (m : Mode) (a b : Text) :
    m.read (a ++ b) = m.output a ++ (m.after a).read b := by
  rw [read, read, output_append, after_append, List.append_assoc]

theorem read_cons (m : Mode) (c : Char) (t : Text) :
    m.read (c :: t) = (m.step c).2 ++ (m.step c).1.read t := by
  rw [read, read, output_cons, after_cons, List.append_assoc]

end Mode

theorem strip_eq_read (t : Text) : strip t = Mode.initial.read t := rfl

theorem words_normalize (t : Text) : Text.words (normalize t) = Text.words (strip t) :=
  Text.words_collapse _

/-- Does the scanner stand at the top of its loop between two parts of a text? -/
def AtTop (a b : Text) : Prop := (Mode.initial.after a).atTop b.head? = true

instance (a b : Text) : Decidable (AtTop a b) :=
  inferInstanceAs (Decidable ((Mode.initial.after a).atTop b.head? = true))

/-- Does the text end in code, with only blanks between its last line break and its end? -/
def endsAtLineStart (a : Text) : Bool := Mode.initial.after a == .code true

def Mode.isLiteral : Mode → Bool
  | .literal _ _ => true
  | _ => false

/-- Does the text end inside of a literal? -/
def endsInLiteral (a : Text) : Bool := (Mode.initial.after a).isLiteral

/-- Is a hash the first character of the text besides blanks that break no line? -/
def startsWithHash (t : Text) : Bool :=
  (t.dropWhile fun c => isBlank c && c != '\n').head? == some '#'

/-- Blanks that break no line. -/
def IsIndent (w : Text) : Prop := ∀ c ∈ w, isBlank c = true ∧ c ≠ '\n'

instance (w : Text) : Decidable (IsIndent w) := by
  unfold IsIndent
  infer_instance

/-! ## 2. Code at the start of a line and elsewhere -/

theorem IsIndent.isBlankText {w : Text} (h : IsIndent w) : IsBlankText w := fun c hc => (h c hc).1

/-- Blanks that break no line are written as they stand and leave the mode alone. -/
theorem read_indent {w : Text} (h : IsIndent w) (lineStart : Bool) (t : Text) :
    (Mode.code lineStart).read (w ++ t) = w ++ (Mode.code lineStart).read t := by
  induction w with
  | nil => rfl
  | cons c w ih =>
    obtain ⟨hblank, hbreak⟩ := h c List.mem_cons_self
    have hc : IsBlankText [c] := by simpa [IsBlankText] using hblank
    have hplain := isPlain_of_isBlankText hc c List.mem_cons_self
    have hstep : (Mode.code lineStart).step c = (.code lineStart, [c]) := by
      simp [Mode.step, Mode.stepCode, hplain, hblank, hbreak]
    rw [List.cons_append, Mode.read_cons, hstep, ih fun d hd => h d (List.mem_cons_of_mem _ hd)]
    rfl

/-- **The start of a line matters to a hash only.** -/
theorem read_code_congr {t : Text} (h : startsWithHash t = false) (lineStart : Bool) :
    (Mode.code lineStart).read t = (Mode.code true).read t := by
  induction t with
  | nil => rfl
  | cons c t ih =>
    by_cases hindent : isBlank c = true ∧ c ≠ '\n'
    · have hc : IsIndent [c] := by simpa [IsIndent] using hindent
      have hrest : startsWithHash t = false := by
        rwa [startsWithHash, List.dropWhile_cons_of_pos (by simpa using hindent)] at h
      have hsplit : c :: t = [c] ++ t := rfl
      rw [hsplit, read_indent hc, read_indent hc, ih hrest]
    · -- the first character besides blanks is no hash, and all others set the mode anew
      have hhash : c ≠ '#' := by
        rw [startsWithHash, List.dropWhile_cons_of_neg (by simpa using hindent)] at h
        simpa using h
      have hstep : (Mode.code lineStart).step c = (Mode.code true).step c := by
        have hnext :
            (c = '\n' || (lineStart && isBlank c)) = (c = '\n' || (true && isBlank c)) := by
          by_cases hc : c = '\n'
          · simp [hc]
          · have hblank : isBlank c = false := by simpa [hc] using hindent
            simp [hblank]
        simp only [Mode.step, Mode.stepCode, hhash, false_and, if_false, hnext]
      rw [Mode.read_cons, Mode.read_cons, hstep]

/-- A hash that does not stand at the start of a line is code, as all that follows it. -/
theorem read_hash {w : Text} (h : IsIndent w) (t : Text) :
    (Mode.code false).read (w ++ '#' :: t) = w ++ '#' :: (Mode.code false).read t := by
  rw [read_indent h, Mode.read_cons]
  rfl

/-! ## 3. Preprocessor lines -/

/-- A preprocessor line without a backslash is passed over, up to its line break. -/
theorem read_directive {d : Text} (hbreak : '\n' ∉ d) (hback : '\\' ∉ d) (t : Text) :
    (Mode.directive false).read (d ++ '\n' :: t) = '\n' :: (Mode.code true).read t := by
  induction d with
  | nil =>
    rw [List.nil_append, Mode.read_cons]
    rfl
  | cons c d ih =>
    rw [List.mem_cons, not_or] at hbreak hback
    have hstep : (Mode.directive false).step c = (.directive false, []) := by
      have hc : c ≠ '\\' := fun h => hback.1 h.symm
      rw [Mode.step, if_neg fun h => hbreak.1 h.symm]
      simp [hc]
    rw [List.cons_append, Mode.read_cons, hstep]
    exact ih hbreak.2 hback.2

theorem read_directiveLine {w d : Text} (hw : IsIndent w) (hbreak : '\n' ∉ d) (hback : '\\' ∉ d)
    (t : Text) : (Mode.code true).read (w ++ '#' :: (d ++ '\n' :: t)) =
      w ++ '\n' :: (Mode.code true).read t := by
  rw [read_indent hw, Mode.read_cons]
  exact congrArg (w ++ ·) (read_directive hbreak hback t)

/-- A line break behind which the scanner is at the top of its loop has been written, and the
    scanner is at the start of a line unless the line break has closed a literal. -/
theorem Mode.step_newline {m : Mode} {next : Option Char}
    (htop : (m.step '\n').1.atTop next = true) (hnext : next ≠ some '\n') :
    m.step '\n' = (.code (!m.isLiteral), m.flush ++ ['\n']) := by
  cases m with
  | code lineStart => rfl
  | slash => rfl
  | lineComment => rfl
  | blockComment star => cases star <;> cases htop
  | directive continued =>
    cases continued with
    | true => exact absurd (by simpa [Mode.step, Mode.atTop] using htop) hnext
    | false => rfl
  | literal quote escaped =>
    cases escaped with
    | true => cases htop
    | false => simp [Mode.step, Mode.isLiteral, Mode.flush]

theorem strip_newline {a t : Text} (htop : AtTop (a ++ "\n") t) (ht : t.head? ≠ some '\n')
    (u : Text) :
    strip (a ++ "\n" ++ u) = strip a ++ '\n' :: (Mode.code (!endsInLiteral a)).read u := by
  have hafter : Mode.initial.after (a ++ "\n") = ((Mode.initial.after a).step '\n').1 := by
    rw [Mode.after_append]
    rfl
  rw [AtTop, hafter] at htop
  have hstep := Mode.step_newline htop ht
  rw [List.append_assoc, strip_eq_read, Mode.read_append, strip, endsInLiteral]
  have hsplit : ("\n" : Text) ++ u = '\n' :: u := rfl
  rw [hsplit, Mode.read_cons, hstep]
  simp only [List.append_assoc, List.cons_append, List.nil_append]

/-- **No preprocessor line is left in a normal form.**  Let the scanner be at the top of its
    loop behind the line break that follows `a`.  Then a line that begins with a hash, blanks
    before it notwithstanding, leaves no more than its line break; unless the line break
    behind `a` has closed a literal: then it is read like the rest of a line of code. -/
theorem normalize_directive {a w d b : Text} (hw : IsIndent w) (hbreak : '\n' ∉ d)
    (hback : '\\' ∉ d) (htop : AtTop (a ++ "\n") (w ++ "#" ++ d ++ "\n" ++ b)) :
    (endsInLiteral a = false →
      normalize (a ++ "\n" ++ w ++ "#" ++ d ++ "\n" ++ b) = normalize (a ++ "\n\n" ++ b)) ∧
    (endsInLiteral a = true →
      Text.words (normalize (a ++ "\n" ++ w ++ "#" ++ d ++ "\n" ++ b)) =
        Text.words (normalize a) ++
          Text.words ('#' :: (Mode.code false).read (d ++ "\n" ++ b))) := by
  have hshape : (w ++ "#" ++ d ++ "\n" ++ b : Text) = w ++ '#' :: (d ++ '\n' :: b) := by simp
  have hhead : (w ++ "#" ++ d ++ "\n" ++ b : Text).head? ≠ some '\n' := by
    rw [hshape]
    cases w with
    | nil => simp
    | cons c w => simpa using (hw c List.mem_cons_self).2
  have hstrip := strip_newline htop hhead
  have hline : (a ++ "\n" ++ w ++ "#" ++ d ++ "\n" ++ b : Text) =
      a ++ "\n" ++ (w ++ '#' :: (d ++ '\n' :: b)) := by simp
  constructor
  · intro hcode
    have hempty : (a ++ "\n\n" ++ b : Text) = a ++ "\n" ++ '\n' :: b := by simp
    have hbreaks : (Mode.code true).read ('\n' :: b) = '\n' :: (Mode.code true).read b := by
      rw [Mode.read_cons]
      rfl
    rw [normalize, normalize, Text.collapse, Text.collapse, hline, hempty, hstrip, hstrip, hcode,
      Bool.not_false, read_directiveLine hw hbreak hback, hbreaks]
    -- the blanks before the hash belong to a run of blanks in both texts
    rw [Text.words_append_blank (by decide), Text.words_blanks_append hw.isBlankText,
      Text.words_append_blank (by decide)]
  · intro hliteral
    have hrest : (d ++ "\n" ++ b : Text) = d ++ '\n' :: b := by simp
    rw [words_normalize, words_normalize, hline, hstrip, hliteral, Bool.not_true, read_hash hw,
      Text.words_append_blank (by decide), Text.words_blanks_append hw.isBlankText, hrest]

/-- An indented directive behind a line comment; an apostrophe in the comment opens no literal,
    and what the directive holds opens no comment and no literal. -/
theorem normalize_directive_of_indented :
    let a : Text := "int a; // it's"
    let w : Text := "\t "
    let d : Text := " define A 'x /* \""
    IsIndent w ∧ '\n' ∉ d ∧ '\\' ∉ d ∧
      AtTop (a ++ "\n") (w ++ "#" ++ d ++ "\n" ++ "int b;") ∧ endsInLiteral a = false ∧
      normalize (a ++ "\n" ++ w ++ "#" ++ d ++ "\n" ++ "int b;") =
        normalize (a ++ "\n\n" ++ "int b;") := by
  have hw : IsIndent "\t " := by decide
  have htop : AtTop ("int a; // it's" ++ "\n")
      ("\t " ++ "#" ++ " define A 'x /* \"" ++ "\n" ++ "int b;") := by decide
  refine ⟨hw, by decide, by decide, htop, by decide, ?_⟩
  exact (normalize_directive hw (by decide) (by decide) htop).1 (by decide)

/-- A preprocessor line may be left in a normal form: an apostrophe on the line before opens a
    literal, which ends with that line. -/
theorem not_forall_normalize_directive :
    ¬ ∀ a w d b : Text, IsIndent w → '\n' ∉ d → '\\' ∉ d →
      AtTop (a ++ "\n") (w ++ "#" ++ d ++ "\n" ++ b) →
      normalize (a ++ "\n" ++ w ++ "#" ++ d ++ "\n" ++ b) = normalize (a ++ "\n\n" ++ b) := by
  intro h
  have h := h "#if 0\nit isn't used" "" "endif" "int b;" (by decide) (by decide) (by decide)
    (by decide)
  revert h
  decide

/-! ## 4. Block comments -/

/-- Where a slash is ahead, the scanner is at the top of its loop in code only. -/
theorem Mode.exists_eq_code {m : Mode} (h : m.atTop (some '/') = true) :
    ∃ lineStart, m = .code lineStart := by
  cases m with
  | code lineStart => exact ⟨lineStart, rfl⟩
  | _ => cases h

theorem strip_of_atTop {a t : Text} (htop : AtTop a ('/' :: t)) (u : Text) :
    strip (a ++ u) = strip a ++ (Mode.code (endsAtLineStart a)).read u := by
  obtain ⟨lineStart, hcode⟩ := Mode.exists_eq_code htop
  have hstart : endsAtLineStart a = lineStart := by
    rw [endsAtLineStart, hcode]
    cases lineStart <;> rfl
  have hflush : (Mode.code lineStart).flush = [] := rfl
  rw [strip_eq_read, Mode.read_append, strip, hstart, hcode, hflush, List.append_nil]

/-- **A block comment counts as one space.**  Let the scanner be at the top of its loop where a
    block comment begins.  Then the comment is read as one space, whatever it holds; unless it
    begins at the start of a line and a hash follows it on the line: then the hash and what is
    behind it is read as code. -/
theorem normalize_spaceForComment {a c b : Text} (hc : ¬ ("*/" : Text) <:+: c)
    (htop : AtTop a ("/*" ++ c ++ "*/" ++ b)) :
    (¬ (endsAtLineStart a = true ∧ startsWithHash b = true) →
      normalize (a ++ "/*" ++ c ++ "*/" ++ b) = normalize (a ++ " " ++ b)) ∧
    (∀ w t : Text, IsIndent w → b = w ++ '#' :: t →
      Text.words (normalize (a ++ "/*" ++ c ++ "*/" ++ b)) =
        Text.words (normalize a) ++ Text.words ('#' :: (Mode.code false).read t)) := by
  have hstrip := strip_of_atTop htop
  have hvalid : (Separator.block c).IsValid := hc
  obtain ⟨ho, ha⟩ := read_blockComment hvalid (endsAtLineStart a)
  have hcomment : strip (a ++ "/*" ++ c ++ "*/" ++ b) =
      strip a ++ ' ' :: (Mode.code false).read b := by
    have hshape : (a ++ "/*" ++ c ++ "*/" ++ b : Text) = a ++ ((Separator.block c).text ++ b) := by
      simp [Separator.text]
    rw [hshape, hstrip, Mode.read_append, ho, ha]
    rfl
  constructor
  · intro hplain
    have hspace : strip (a ++ " " ++ b) =
        strip a ++ ' ' :: (Mode.code (endsAtLineStart a)).read b := by
      rw [List.append_assoc, hstrip]
      have hindent : IsIndent [' '] := by decide
      exact congrArg (strip a ++ ·) (read_indent hindent _ b)
    have hsame : (Mode.code false).read b = (Mode.code (endsAtLineStart a)).read b := by
      cases hstart : endsAtLineStart a with
      | false => rfl
      | true => exact read_code_congr (by simpa [hstart] using hplain) false
    rw [normalize, normalize, hcomment, hspace, hsame]
  · rintro w t hw rfl
    rw [words_normalize, words_normalize, hcomment, read_hash hw,
      Text.words_append_blank (by decide), Text.words_blanks_append hw.isBlankText]

/-- A comment at the start of a line in front of a comment, and the second one in front of a
    hash. -/
theorem normalize_spaceForComment_of_stars :
    let a : Text := "#define A\n  /**/"
    let c : Text := "/* \" \n#**"
    let b : Text := " # define B\nint b;"
    ¬ ("*/" : Text) <:+: c ∧ AtTop a ("/*" ++ c ++ "*/" ++ b) ∧
      ¬ (endsAtLineStart a = true ∧ startsWithHash b = true) ∧
      normalize (a ++ "/*" ++ c ++ "*/" ++ b) = normalize (a ++ " " ++ b) := by
  have hc : ¬ ("*/" : Text) <:+: "/* \" \n#**" := by decide
  have htop : AtTop "#define A\n  /**/"
      ("/*" ++ "/* \" \n#**" ++ "*/" ++ " # define B\nint b;") := by decide
  refine ⟨hc, htop, by decide, ?_⟩
  exact (normalize_spaceForComment hc htop).1 (by decide)

/-- A block comment may not be read as one space: in front of a directive the comment takes the
    start of the line away. -/
theorem not_forall_normalize_spaceForComment :
    ¬ ∀ a c b : Text, ¬ ("*/" : Text) <:+: c → AtTop a ("/*" ++ c ++ "*/" ++ b) →
      normalize (a ++ "/*" ++ c ++ "*/" ++ b) = normalize (a ++ " " ++ b) := by
  intro h
  have h := h "" " no warranty " " #define A\nint b;" (by decide) (by decide)
  revert h
  decide

end HeaderBindings.Header
