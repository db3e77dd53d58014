import HeaderBindings.Proofs.Header.Directives
import HeaderBindings.Proofs.Text.Cutting

/-!
# Headers line by line

In front of a line break at which the scanner is at the top of its loop, the line is over: what
is held back there is written as at the end of a text, and behind the line break the scanner is
in the state in which it begins a header (`Mode.step_newline_of_atTop`).  So the two parts are
stripped independently of each other (`strip_newline_append`).

In normal form the parts stand side by side, with a space between them if neither is empty
(`normalize_newline`), and a header all of whose lines end like that is normalised line by line
(`normalize_unlines`).  The other line breaks are those in a block comment, those that a literal
takes with it, and those of a directive that goes on.
-/

namespace HeaderBindings

/-! ## 1. Joining words -/

namespace Text

theorem unwords_eq_tail (ws : List Text) : unwords ws = (ws.flatMap (' ' :: ·)).tail := by
  cases ws with
  | nil => rfl
  | cons w ws => exact joinWith_cons [' '] w ws

/-- **Words can be joined in groups**; a group without words leaves no trace. -/
theorem unwords_flatten {wss : List (List Text)} (h : ∀ ws ∈ wss, ∀ w ∈ ws, w ≠ []) :
    unwords wss.flatten = unwords ((wss.map unwords).filter (· ≠ [])) := by
  rw [unwords_eq_tail, unwords_eq_tail]
  apply congrArg
  induction wss with
  | nil => rfl
  | cons ws wss ih =>
    have ih := ih fun vs hvs => h vs (List.mem_cons_of_mem _ hvs)
    rw [List.flatten_cons, List.flatMap_append, ih, List.map_cons]
    cases ws with
    | nil => rfl
    | cons w ws =>
      have hne := unwords_ne_nil (h (w :: ws) List.mem_cons_self w List.mem_cons_self) ws
      have hgroup : (w :: ws).flatMap (' ' :: ·) = ' ' :: unwords (w :: ws) :=
        congrArg (' ' :: ·) (joinWith_cons [' '] w ws).symm
      rw [hgroup, List.filter_cons_of_pos (by simpa using hne), List.flatMap_cons]

end Text

namespace Header

/-! ## 2. The end of a line -/

/-- Where a line is over, the scanner begins anew behind the line break. -/
theorem Mode.step_newline_of_atTop {m : Mode} (h : m.atTop (some '\n') = true) :
    m.step '\n' = (initial, m.flush ++ ['\n']) := by
  cases m with
  | code lineStart => rfl
  | slash => rfl
  | lineComment => rfl
  | blockComment star => cases h
  | directive continued =>
    cases continued with
    | true => cases h
    | false => rfl
  | literal quote escaped => cases h

theorem strip_newline_append {a b : Text} (htop : AtTop a ('\n' :: b)) :
    strip (a ++ '\n' :: b) = strip a ++ '\n' :: strip b := by
  have hstep := Mode.step_newline_of_atTop htop
  rw [strip_eq_read, Mode.read_append, Mode.read_cons, hstep, strip, strip_eq_read]
  simp only [List.append_assoc, List.cons_append, List.nil_append]

theorem words_strip_newline {a b : Text} (htop : AtTop a ('\n' :: b)) :
    Text.words (strip (a ++ '\n' :: b)) = Text.words (strip a) ++ Text.words (strip b) := by
  rw [strip_newline_append htop, Text.words_append_blank (by decide)]

/-! ## 3. Normal forms -/

/-- The normal forms of several texts, of which the words are known to be those of one text. -/
theorem normalize_of_words {t : Text} {ts : List Text}
    (h : Text.words (strip t) = (ts.map fun u => Text.words (strip u)).flatten) :
    normalize t = Text.unwords ((ts.map normalize).filter (· ≠ [])) := by
  have hwords : ∀ ws ∈ ts.map fun u => Text.words (strip u), ∀ w ∈ ws, w ≠ [] := by
    intro ws hws w hw
    obtain ⟨u, -, rfl⟩ := List.mem_map.1 hws
    exact (Text.mem_words hw).1
  rw [normalize, Text.collapse, h, Text.unwords_flatten hwords, List.map_map]
  rfl

/-- **A line break at which a line is over** parts a header: its normal form is that of the two
    parts, with one space between them if neither is empty. -/
theorem normalize_newline {a b : Text} (htop : AtTop a ("\n" ++ b)) :
    normalize (a ++ "\n" ++ b) =
      Text.unwords ([normalize a, normalize b].filter (· ≠ [])) := by
  have hsplit : (a ++ "\n" ++ b : Text) = a ++ '\n' :: b := by simp
  have hwords : Text.words (strip (a ++ '\n' :: b)) =
      ([a, b].map fun u => Text.words (strip u)).flatten := by
    rw [words_strip_newline (b := b) htop]
    simp
  rw [hsplit]
  exact normalize_of_words hwords

/-- A slash at the end of a line and one at the beginning of the next line open no comment, and
    the apostrophe in the line comment opens no literal. -/
theorem normalize_newline_of_slashes :
    let a : Text := "int a; // it's\nint b; /"
    let b : Text := "/ int c; # 'x' /*"
    AtTop a ("\n" ++ b) ∧
      normalize (a ++ "\n" ++ b) =
        Text.unwords ([normalize a, normalize b].filter (· ≠ [])) := by
  have htop : AtTop "int a; // it's\nint b; /" ("\n" ++ "/ int c; # 'x' /*") := by decide
  exact ⟨htop, normalize_newline htop⟩

/-- **A header is normalised line by line** if every line, read alone, is over at its line
    break. -/
theorem normalize_unlines {ls : List Text} (h : ∀ l ∈ ls, AtTop l "\n") :
    normalize (Text.unlines ls) = Text.unwords ((ls.map normalize).filter (· ≠ [])) := by
  apply normalize_of_words
  induction ls with
  | nil => rfl
  | cons l ls ih =>
    -- whether a line is over depends on the line break only, not on the lines behind it
    have htop : AtTop l ('\n' :: Text.unlines ls) := h l List.mem_cons_self
    rw [Text.unlines_cons, words_strip_newline htop,
      ih fun k hk => h k (List.mem_cons_of_mem _ hk)]
    rfl

end Header

end HeaderBindings
