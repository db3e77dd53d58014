import HeaderBindings.Declarations
import HeaderBindings.Proofs.Header.Spelling

/-!
# What is written inside a block comment

A reader of C knows where a text ends: in code, in a literal, in a comment.  In a
preprocessor line such a reader sees comments and literals as well, and a block comment that
begins there may run over the end of the line (`Place`).  The scanner of `Header.strip` sees
nothing inside a directive but its end.

So the two agree as long as no block comment of a preprocessor line runs over the end of its
line (`Place.mode_after`), and where they agree a block comment is read alike whatever it
holds (`extract_blockComment`).  Of a comment that does run over the end of the line the
scanner drops the first line only, and the others are read as if they were code.
-/

namespace HeaderBindings.Header

/-! ## 1. Places -/

/-- What the end of a text belongs to, preprocessor lines left aside. -/
inductive Part where
  /-- Code.  `lineStart` says that only blanks stand between the last line break and here. -/
  | code (lineStart : Bool)
  | slash
  | lineComment
  | blockComment (star : Bool)
  | literal (quote : Char) (escaped : Bool)
  deriving DecidableEq, Repr

namespace Part

def stepCode (lineStart : Bool) (c : Char) : Part :=
  if c = '/' then .slash
  else if c = '"' ∨ c = '\'' then .literal c false
  else .code (c = '\n' || (lineStart && isBlank c))

def step : Part → Char → Part
  | .code lineStart, c => stepCode lineStart c
  | .slash, c =>
    if c = '/' then .lineComment
    else if c = '*' then .blockComment false
    else stepCode false c
  | .lineComment, c => if c = '\n' then .code true else .lineComment
  | .blockComment star, c => if star ∧ c = '/' then .code false else .blockComment (c = '*')
  | .literal quote escaped, c =>
    if escaped then .literal quote false
    else if c = '\\' then .literal quote true
    else if c = quote ∨ c = '\n' then .code false
    else .literal quote false

/-- Go over a line break that a backslash takes away. -/
def splice : Part → Part
  | .blockComment _ => .blockComment false
  | .literal quote _ => .literal quote false
  | p => p

def isBlockComment : Part → Bool
  | .blockComment _ => true
  | _ => false

/-- The mode in which the scanner reads on outside of preprocessor lines. -/
def mode : Part → Mode
  | .code lineStart => .code lineStart
  | .slash => .slash
  | .lineComment => .lineComment
  | .blockComment star => .blockComment star
  | .literal quote escaped => .literal quote escaped

end Part

/-- Where a text ends. -/
structure Place where
  part : Part
  /-- Set in a preprocessor line: whether its last character that is not blank is a
      backslash. -/
  directive : Option Bool
  deriving DecidableEq, Repr

namespace Place

/-- Every text begins at the start of a line. -/
def initial : Place := ⟨.code true, none⟩

/-- Read a character.  A hash that only blanks precede on its line opens a preprocessor line,
    which ends with the first line break that no backslash precedes and that no block comment
    holds. -/
def step : Place → Char → Place
  | ⟨p, none⟩, c =>
    if c = '#' ∧ p = .code true then ⟨.code false, some false⟩ else ⟨p.step c, none⟩
  | ⟨p, some continued⟩, c =>
    if c = '\n' then
      if continued then ⟨p.splice, some false⟩
      else if p.isBlockComment then ⟨.blockComment false, some false⟩
      else ⟨.code true, none⟩
    else ⟨p.step c, some (if isBlank c then continued else c = '\\')⟩

def after (p : Place) (t : Text) : Place := t.foldl step p

/-- Does a slash that a star follows open a block comment here?  It does outside of literals
    and comments, in code and in a preprocessor line alike. -/
def isOpen (p : Place) : Bool :=
  match p.part with
  | .code _ => true
  | _ => false

/-- Does a block comment of a preprocessor line run over the end of the line with the given
    character? -/
def runsOver (p : Place) (c : Char) : Bool :=
  c = '\n' && p.directive == some false && p.part.isBlockComment

/-- No block comment of a preprocessor line runs over the end of its line. -/
def keepsToLines (p : Place) : Text → Bool
  | [] => true
  | c :: t => !p.runsOver c && (p.step c).keepsToLines t

/-- The mode in which the scanner reads on. -/
def mode (p : Place) : Mode :=
  match p.directive with
  | none => p.part.mode
  | some continued => .directive continued

@[simp] theorem after_cons (p : Place) (c : Char) (t : Text) :
    p.after (c :: t) = (p.step c).after t := rfl

@[simp] theorem after_append (p : Place) (a b : Text) :
    p.after (a ++ b) = (p.after a).after b := by
  simp [after]

theorem keepsToLines_append (p : Place) (a b : Text) :
    p.keepsToLines (a ++ b) = (p.keepsToLines a && (p.after a).keepsToLines b) := by
  induction a generalizing p with
  | nil => rfl
  | cons c a ih => simp [keepsToLines, ih, Bool.and_assoc]

end Place

/-! ## 2. Places and modes -/

theorem Part.mode_stepCode {lineStart : Bool} {c : Char} (h : ¬ (c = '#' ∧ lineStart = true)) :
    (Part.stepCode lineStart c).mode = (Mode.stepCode lineStart c).1 := by
  rw [Part.stepCode, Mode.stepCode]
  by_cases hslash : c = '/'
  · rw [if_pos hslash, if_pos hslash, Part.mode]
  · rw [if_neg hslash, if_neg hslash, if_neg h]
    split <;> rfl

theorem Part.mode_step {p : Part} {c : Char} (h : ¬ (c = '#' ∧ p = .code true)) :
    (p.step c).mode = (p.mode.step c).1 := by
  cases p with
  | code lineStart =>
    apply Part.mode_stepCode
    rintro ⟨hc, rfl⟩
    exact h ⟨hc, rfl⟩
  | slash =>
    rw [Part.step, Part.mode, Mode.step]
    by_cases hslash : c = '/'
    · rw [if_pos hslash, if_pos hslash, Part.mode]
    · rw [if_neg hslash, if_neg hslash]
      by_cases hstar : c = '*'
      · rw [if_pos hstar, if_pos hstar, Part.mode]
      · rw [if_neg hstar, if_neg hstar, Part.mode_stepCode (fun h => by cases h.2)]
  | lineComment =>
    rw [Part.step, Part.mode, Mode.step]
    split <;> rfl
  | blockComment star =>
    rw [Part.step, Part.mode, Mode.step]
    split <;> rfl
  | literal quote escaped =>
    rw [Part.step, Part.mode, Mode.step]
    cases escaped with
    | true => rfl
    | false =>
      by_cases hback : c = '\\'
      · rw [if_pos hback, if_pos hback]
        rfl
      · rw [if_neg hback, if_neg hback, if_neg Bool.false_ne_true, if_neg Bool.false_ne_true]
        split <;> rfl

/-- The scanner steps along, unless a block comment runs over the end of a preprocessor
    line. -/
theorem Place.mode_step {p : Place} {c : Char} (h : p.runsOver c = false) :
    (p.step c).mode = (p.mode.step c).1 := by
  obtain ⟨part, directive⟩ := p
  cases directive with
  | none =>
    rw [Place.step]
    split
    · rename_i hc
      obtain ⟨rfl, rfl⟩ := hc
      rfl
    · rename_i hc
      exact Part.mode_step hc
  | some continued =>
    rw [Place.step]
    by_cases hc : c = '\n'
    · subst hc
      cases continued with
      | true => rfl
      | false =>
        have hpart : part.isBlockComment = false := by simpa [Place.runsOver] using h
        rw [hpart]
        rfl
    · rw [if_neg hc]
      simp only [Place.mode, Mode.step, if_neg hc]
      split <;> rfl

/-- **The scanner knows its place.**  As long as no block comment of a preprocessor line runs
    over the end of its line, the scanner reads on as the place requires. -/
theorem Place.mode_after {p : Place} {t : Text} (h : p.keepsToLines t = true) :
    (p.after t).mode = p.mode.after t := by
  induction t generalizing p with
  | nil => rfl
  | cons c t ih =>
    rw [Place.keepsToLines, Bool.and_eq_true, Bool.not_eq_true'] at h
    rw [Place.after_cons, Mode.after_cons, ih h.2, Place.mode_step h.1]

/-! ## 3. Comments that are read alike -/

/-- What is read in one way with two texts is read in one way, whatever follows. -/
theorem strip_congr {a t t' : Text} (b : Text)
    (ho : (Mode.initial.after a).output t = (Mode.initial.after a).output t')
    (ha : (Mode.initial.after a).after t = (Mode.initial.after a).after t') :
    strip (a ++ t ++ b) = strip (a ++ t' ++ b) := by
  have hread : ∀ t, strip (a ++ t ++ b) = Mode.initial.output a ++
      (Mode.initial.after a).output t ++ ((Mode.initial.after a).after t).output b ++
        (((Mode.initial.after a).after t).after b).flush := by
    intro t
    rw [List.append_assoc, strip_append, Mode.output_append, Mode.after_append, List.append_assoc,
      List.append_assoc, List.append_assoc, List.append_assoc]
  rw [hread, hread, ho, ha]

/-- In a preprocessor line the body of a block comment is passed over, as long as it keeps to
    the line. -/
theorem read_commentBody {body : Text} {star continued : Bool} (hbody : ¬ ['*', '/'] <:+: body)
    (hstar : star = true → body.head? ≠ some '/')
    (hline : (⟨.blockComment star, some continued⟩ : Place).keepsToLines body = true) :
    (Mode.directive continued).output body = [] ∧
      ∃ star' continued', (⟨.blockComment star, some continued⟩ : Place).after body =
        ⟨.blockComment star', some continued'⟩ := by
  induction body generalizing star continued with
  | nil => exact ⟨rfl, star, continued, rfl⟩
  | cons c body ih =>
    rw [Place.keepsToLines, Bool.and_eq_true, Bool.not_eq_true'] at hline
    obtain ⟨hover, hline⟩ := hline
    have hbody' : ¬ ['*', '/'] <:+: body :=
      fun h => hbody (h.trans (List.suffix_cons c body).isInfix)
    by_cases hc : c = '\n'
    · subst hc
      obtain rfl : continued = true := by simpa [Place.runsOver, Part.isBlockComment] using hover
      exact ih hbody' (by simp) hline
    · have hpart : (Part.blockComment star).step c = .blockComment (c = '*') := by
        rw [Part.step, if_neg]
        rintro ⟨hs, rfl⟩
        exact hstar hs rfl
      have hslash : decide (c = '*') = true → body.head? ≠ some '/' := by
        intro hc hhead
        obtain rfl : c = '*' := by simpa using hc
        obtain ⟨rest, rfl⟩ := List.head?_eq_some_iff.1 hhead
        exact hbody ⟨[], rest, rfl⟩
      have hplace : (⟨.blockComment star, some continued⟩ : Place).step c =
          ⟨.blockComment (c = '*'), some (if isBlank c then continued else c = '\\')⟩ := by
        rw [Place.step, if_neg hc, hpart]
      rw [hplace] at hline
      obtain ⟨ho, hafter⟩ := ih hbody' hslash hline
      rw [Place.after_cons, hplace, Mode.output_cons, Mode.step, if_neg hc]
      refine ⟨?_, hafter⟩
      split
      · rename_i hblank
        rwa [if_pos hblank] at ho
      · rename_i hblank
        rwa [if_neg hblank] at ho

theorem Place.after_opening (lineStart continued : Bool) :
    (⟨.code lineStart, some continued⟩ : Place).after ['/', '*'] =
      ⟨.blockComment false, some false⟩ := rfl

/-- The opening of a block comment in a preprocessor line, and a body that keeps to the
    line. -/
theorem read_openedComment {lineStart continued : Bool} {body : Text}
    (hbody : ¬ ['*', '/'] <:+: body)
    (hline : (⟨.code lineStart, some continued⟩ : Place).keepsToLines (['/', '*'] ++ body) = true) :
    (Mode.directive continued).output (['/', '*'] ++ body) = [] ∧
      ∃ star continued', (⟨.code lineStart, some continued⟩ : Place).after (['/', '*'] ++ body) =
        ⟨.blockComment star, some continued'⟩ := by
  rw [Place.keepsToLines_append, Bool.and_eq_true, Place.after_opening] at hline
  obtain ⟨ho, hafter⟩ := read_commentBody hbody (fun h => by cases h) hline.2
  have hopen : (Mode.directive continued).after ['/', '*'] = .directive false := rfl
  have hnothing : (Mode.directive continued).output ['/', '*'] = [] := rfl
  refine ⟨?_, ?_⟩
  · rw [Mode.output_append, hopen, hnothing, ho, List.append_nil]
  · rw [Place.after_append, Place.after_opening]
    exact hafter

/-- **A block comment is read alike whatever it holds**, unless it begins in a preprocessor
    line and runs over the end of the line. -/
theorem read_comment {p : Place} (hopen : p.isOpen = true) {body : Text}
    (hbody : ¬ ['*', '/'] <:+: body)
    (hline : p.directive.isSome = true → p.keepsToLines (['/', '*'] ++ body) = true) :
    p.mode.output (Separator.block body).text = p.mode.output (Separator.block []).text ∧
      p.mode.after (Separator.block body).text = p.mode.after (Separator.block []).text := by
  obtain ⟨part, directive⟩ := p
  cases part with
  | code lineStart =>
    cases directive with
    | none =>
      obtain ⟨ho, ha⟩ := read_blockComment hbody lineStart
      have hempty : (Separator.block []).IsValid := by decide
      obtain ⟨ho', ha'⟩ := read_blockComment hempty lineStart
      exact ⟨ho.trans ho'.symm, ha.trans ha'.symm⟩
    | some continued =>
      have hline := hline rfl
      obtain ⟨ho, star, continued', hafter⟩ := read_openedComment hbody hline
      have hmode : (Mode.directive continued).after (['/', '*'] ++ body) = .directive continued' := by
        have h := Place.mode_after hline
        rw [hafter] at h
        exact h.symm
      have hsplit : (Separator.block body).text = ['/', '*'] ++ body ++ ['*', '/'] := rfl
      have hp : (⟨.code lineStart, some continued⟩ : Place).mode = .directive continued := rfl
      rw [hp, hsplit, Mode.output_append, Mode.after_append _ (['/', '*'] ++ body), ho, hmode]
      exact ⟨rfl, rfl⟩
  | _ => cases hopen

/-- A block comment that runs over the end of its preprocessor line is read up to there as if
    it ended with the line. -/
theorem read_overrun {p : Place} (hopen : p.isOpen = true) {body : Text}
    (hbody : ¬ ['*', '/'] <:+: body) (hline : p.keepsToLines (['/', '*'] ++ body) = true)
    (hover : p.keepsToLines (['/', '*'] ++ body ++ ['\n']) = false) :
    p.mode.output (['/', '*'] ++ body ++ ['\n']) =
        p.mode.output ((Separator.block []).text ++ ['\n']) ∧
      p.mode.after (['/', '*'] ++ body ++ ['\n']) =
        p.mode.after ((Separator.block []).text ++ ['\n']) := by
  have hruns : (p.after (['/', '*'] ++ body)).runsOver '\n' = true := by
    rw [Place.keepsToLines_append, hline] at hover
    simpa [Place.keepsToLines] using hover
  obtain ⟨part, directive⟩ := p
  cases part with
  | code lineStart =>
    cases directive with
    | none =>
      -- in code the scanner is in the comment, and not in a directive
      have hstar : false = true → body.head? ≠ some '/' := fun h => by cases h
      obtain ⟨-, star, ha⟩ := after_blockComment hbody hstar
      have hmode := Place.mode_after hline
      rw [Mode.after_append] at hmode
      have hcode : ((⟨.code lineStart, none⟩ : Place).after (['/', '*'] ++ body)).mode =
          .blockComment star := hmode.trans ha
      have hdirective : ((⟨.code lineStart, none⟩ : Place).after (['/', '*'] ++ body)).directive =
          some false := by
        simp only [Place.runsOver, Bool.and_eq_true, beq_iff_eq] at hruns
        exact hruns.1.2
      rw [Place.mode, hdirective] at hcode
      cases hcode
    | some continued =>
      obtain ⟨ho, star, continued', hafter⟩ := read_openedComment hbody hline
      obtain rfl : continued' = false := by
        rw [hafter] at hruns
        simpa [Place.runsOver, Part.isBlockComment] using hruns
      have hmode : (Mode.directive continued).after (['/', '*'] ++ body) = .directive false := by
        have h := Place.mode_after hline
        rw [hafter] at h
        exact h.symm
      have hp : (⟨.code lineStart, some continued⟩ : Place).mode = .directive continued := rfl
      rw [hp, Mode.output_append, Mode.after_append _ (['/', '*'] ++ body), ho, hmode]
      exact ⟨rfl, rfl⟩
  | _ => cases hopen

/-! ## 4. The declarations of a header with a comment -/

/-- The text ends where a slash that a star follows opens a block comment: outside of
    literals and comments, in code or in a preprocessor line. -/
def OpensComment (a : Text) : Prop := (Place.initial.after a).isOpen = true

/-- The text ends in a preprocessor line. -/
def InDirective (a : Text) : Prop := (Place.initial.after a).directive.isSome = true

/-- No block comment of a preprocessor line runs over the end of its line. -/
def KeepsToLines (t : Text) : Prop := Place.initial.keepsToLines t = true

instance (a : Text) : Decidable (OpensComment a) :=
  inferInstanceAs (Decidable ((Place.initial.after a).isOpen = true))

instance (a : Text) : Decidable (InDirective a) :=
  inferInstanceAs (Decidable ((Place.initial.after a).directive.isSome = true))

instance (t : Text) : Decidable (KeepsToLines t) :=
  inferInstanceAs (Decidable (Place.initial.keepsToLines t = true))

theorem keepsToLines_append_iff {a : Text} (ha : KeepsToLines a) (t : Text) :
    KeepsToLines (a ++ t) ↔ (Place.initial.after a).keepsToLines t = true := by
  rw [KeepsToLines] at ha
  rw [KeepsToLines, Place.keepsToLines_append, ha, Bool.true_and]

section
variable {a : Text} (hopen : OpensComment a) (ha : KeepsToLines a)
include hopen ha

/-- A block comment that is read as it should be leaves what an empty one leaves. -/
theorem strip_comment {body : Text} (hbody : ¬ ("*/" : Text) <:+: body)
    (hline : InDirective a → KeepsToLines (a ++ "/*" ++ body)) (b : Text) :
    strip (a ++ "/*" ++ body ++ "*/" ++ b) = strip (a ++ "/**/" ++ b) := by
  have hmode : Mode.initial.after a = (Place.initial.after a).mode := (Place.mode_after ha).symm
  have hkeeps : (Place.initial.after a).directive.isSome = true →
      (Place.initial.after a).keepsToLines (['/', '*'] ++ body) = true := by
    intro h
    rw [← keepsToLines_append_iff ha, ← List.append_assoc]
    exact hline h
  obtain ⟨ho, hafter⟩ := read_comment hopen hbody hkeeps
  have hsplit : (a ++ "/*" ++ body ++ "*/" ++ b : Text) =
      a ++ (Separator.block body).text ++ b := by
    simp [Separator.text]
  rw [hsplit]
  apply strip_congr b
  · rw [hmode]
    exact ho
  · rw [hmode]
    exact hafter

/-- A block comment that runs over the end of its preprocessor line leaves what one leaves
    that ends there, and the lines behind. -/
theorem strip_overrun {body : Text} (hbody : ¬ ("*/" : Text) <:+: body)
    (hline : KeepsToLines (a ++ "/*" ++ body)) (hover : ¬ KeepsToLines (a ++ "/*" ++ body ++ "\n"))
    (b : Text) : strip (a ++ "/*" ++ body ++ "\n" ++ b) = strip (a ++ "/**/\n" ++ b) := by
  have hmode : Mode.initial.after a = (Place.initial.after a).mode := (Place.mode_after ha).symm
  have hsplit : ∀ t : Text, (a ++ "/*" ++ body ++ t : Text) = a ++ (['/', '*'] ++ body ++ t) := by
    intro t
    simp
  have hline : (Place.initial.after a).keepsToLines (['/', '*'] ++ body) = true := by
    rw [← keepsToLines_append_iff ha, ← List.append_assoc]
    exact hline
  have hover : (Place.initial.after a).keepsToLines (['/', '*'] ++ body ++ ['\n']) = false := by
    rw [← Bool.not_eq_true, ← keepsToLines_append_iff ha, ← hsplit]
    exact hover
  obtain ⟨ho, hafter⟩ := read_overrun hopen hbody hline hover
  rw [hsplit]
  apply strip_congr b
  · rw [hmode]
    exact ho
  · rw [hmode]
    exact hafter

end

end Header

/-- A header is read by its normal form. -/
theorem Conventions.extract_congr (x : Conventions) {s t : Text}
    (h : Header.strip s = Header.strip t) : x.extract s = x.extract t := by
  rw [extract, extract, Header.normalize, Header.normalize, h]

/-- **What is written inside a block comment does not matter.**  Let a block comment open
    behind `a`, and let the block comments of the preprocessor lines of `a` keep to their lines.
    In code the declarations do not depend on what the comment holds.  In a preprocessor line
    they do not depend on it either, as long as the comment keeps to the line; of a comment that
    runs over the end of the line, all behind that end is read as if the comment ended there. -/
theorem extract_blockComment (x : Conventions) {a : Text} (hopen : Header.OpensComment a)
    (ha : Header.KeepsToLines a) :
    (∀ c₁ c₂ b : Text, ¬ ("*/" : Text) <:+: c₁ → ¬ ("*/" : Text) <:+: c₂ →
      (Header.InDirective a →
        Header.KeepsToLines (a ++ "/*" ++ c₁) ∧ Header.KeepsToLines (a ++ "/*" ++ c₂)) →
      x.extract (a ++ "/*" ++ c₁ ++ "*/" ++ b) = x.extract (a ++ "/*" ++ c₂ ++ "*/" ++ b)) ∧
    (∀ c b : Text, ¬ ("*/" : Text) <:+: c → Header.KeepsToLines (a ++ "/*" ++ c) →
      ¬ Header.KeepsToLines (a ++ "/*" ++ c ++ "\n") →
      x.extract (a ++ "/*" ++ c ++ "\n" ++ b) = x.extract (a ++ "/**/\n" ++ b)) := by
  constructor
  · intro c₁ c₂ b h₁ h₂ hline
    apply x.extract_congr
    rw [Header.strip_comment hopen ha h₁ (fun h => (hline h).1) b,
      Header.strip_comment hopen ha h₂ (fun h => (hline h).2) b]
  · intro c b hc hline hover
    exact x.extract_congr (Header.strip_overrun hopen ha hc hline hover b)

/-- A comment in a preprocessor line that holds a prototype, on a line that a backslash makes
    part of the first one. -/
theorem extract_blockComment_of_directive :
    let a : Text := "typedef struct T T;\n# define SLASH '/' "
    let c : Text := " don't \\ \n#OGA_EXPORT int OGA_API_CALL OgaF(T* t); "
    let b : Text := "\nOGA_EXPORT int OGA_API_CALL OgaG(T* t);"
    Header.OpensComment a ∧ Header.KeepsToLines a ∧ Header.InDirective a ∧
      Header.KeepsToLines (a ++ "/*" ++ c) ∧
      Conventions.builtin.extract (a ++ "/*" ++ c ++ "*/" ++ b) =
        Conventions.builtin.extract (a ++ "/*" ++ "\"*" ++ "*/" ++ b) := by
  have hopen : Header.OpensComment "typedef struct T T;\n# define SLASH '/' " := by decide
  have ha : Header.KeepsToLines "typedef struct T T;\n# define SLASH '/' " := by decide
  refine ⟨hopen, ha, by decide, by decide, ?_⟩
  exact (extract_blockComment Conventions.builtin hopen ha).1 _ _ _ (by decide) (by decide)
    fun _ => ⟨by decide, by decide⟩

/-- The declarations of a header may depend on what is written inside a block comment: a
    prototype in a comment that begins in a preprocessor line is exported. -/
theorem not_forall_extract_blockComment :
    ¬ ∀ a c₁ c₂ b : Text, Header.OpensComment a → ¬ ("*/" : Text) <:+: c₁ →
      ¬ ("*/" : Text) <:+: c₂ →
      (Conventions.builtin.extract (a ++ "/*" ++ c₁ ++ "*/" ++ b)).declarations =
        (Conventions.builtin.extract (a ++ "/*" ++ c₂ ++ "*/" ++ b)).declarations := by
  intro h
  have h := h "#define A " "\nOGA_EXPORT void OGA_API_CALL OgaOld(void);\n" "" "" (by decide)
    (by decide) (by decide)
  revert h
  decide +kernel

end HeaderBindings
