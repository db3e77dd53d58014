/-!
# Texts

A *text* is the list of its characters.  Everything this library reads (headers,
settings, path names) and everything it writes (generated files, log lines) is a
text, so that scanners are recursions on lists and their laws are inductions.

The blank characters are those of the Unicode property `White_Space`.  Three
operations rest on that class:

* `Text.words` cuts a text at its blanks and keeps the pieces that are not empty;
* `Text.collapse` writes the words again with exactly one space between two;
* `Text.trim` removes the blanks at both ends and leaves the inner ones alone.

`Text.words_collapse` says that collapsing loses no word.
-/

namespace HeaderBindings

abbrev Text := List Char

/-- String literals stand for the texts they spell. -/
instance : Coe String Text := ⟨String.toList⟩

/-- Texts are looked for in a list by comparing them. -/
instance decidableMemTexts (t : Text) (ts : List Text) : Decidable (t ∈ ts) :=
  List.instDecidableMemOfLawfulBEq t ts

/-- The characters with the Unicode property `White_Space`. -/
def isBlank (c : Char) : Bool :=
  let n := c.toNat
  (9 ≤ n && n ≤ 13) || n == 0x20 || n == 0x85 || n == 0xA0 || n == 0x1680 ||
    (0x2000 ≤ n && n ≤ 0x200A) || n == 0x2028 || n == 0x2029 || n == 0x202F ||
    n == 0x205F || n == 0x3000

namespace Text

/-! ### Words -/

/-- Put a character in front of a list of words: onto the first word when the
    character touches it, and as a word of its own otherwise. -/
def glue (c : Char) (touching : Bool) : List Text → List Text
  | w :: ws => if touching then (c :: w) :: ws else [c] :: w :: ws
  | [] => [[c]]

def startsWord : Text → Bool
  | [] => false
  | c :: _ => !isBlank c

/-- The maximal runs of characters that are not blank, in order. -/
def words : Text → List Text
  | [] => []
  | c :: rest => if isBlank c then words rest else glue c (startsWord rest) (words rest)

def joinWith (sep : Text) (ws : List Text) : Text := sep.intercalate ws

def unwords (ws : List Text) : Text := joinWith [' '] ws

/-- Every run of blanks becomes one space; the runs at the ends disappear. -/
def collapse (t : Text) : Text := unwords (words t)

/-! ### Trimming -/

def trimStart (t : Text) : Text := t.dropWhile isBlank

def trimEnd (t : Text) : Text := (t.reverse.dropWhile isBlank).reverse

def trim (t : Text) : Text := trimEnd (trimStart t)

/-! ### Numbers and lines -/

def ofNat (n : Nat) : Text := Nat.toDigits 10 n

def unlines (ls : List Text) : Text := ls.flatMap (· ++ ['\n'])

/-- The lines of a text; a line break at the very end opens no further line. -/
def lines : Text → List Text
  | [] => []
  | c :: rest =>
    if c = '\n' then [] :: lines rest
    else match lines rest with
      | [] => [[c]]
      | l :: ls => (c :: l) :: ls

/-! ### Prefixes and searches -/

def startsWith (t start : Text) : Bool := start.isPrefixOf t

def after? (needle : Text) : Text → Option Text
  | [] => if needle.isEmpty then some [] else none
  | c :: rest =>
    match needle.isPrefixOf? (c :: rest) with
    | some tail => some tail
    | none => after? needle rest

/-! ### Laws of words -/

theorem words_cons_blank {c : Char} (h : isBlank c = true) (t : Text) :
    words (c :: t) = words t := by
  simp [words, h]

theorem words_cons_ink {c : Char} (h : isBlank c = false) (t : Text) :
    words (c :: t) = glue c (startsWord t) (words t) := by
  simp [words, h]

theorem words_eq_nil_of_not_ink {t : Text} (h : t.all isBlank = true) : words t = [] := by
  induction t with
  | nil => rfl
  | cons c t ih =>
    simp only [List.all_cons, Bool.and_eq_true] at h
    rw [words_cons_blank h.1, ih h.2]

theorem words_ne_nil_of_startsWord {t : Text} (h : startsWord t = true) : words t ≠ [] := by
  cases t with
  | nil => simp [startsWord] at h
  | cons c t =>
    have hc : isBlank c = false := by simpa [startsWord] using h
    rw [words_cons_ink hc]
    cases words t with
    | nil => simp [glue]
    | cons w ws => cases startsWord t <;> simp [glue]

theorem mem_words {t w : Text} (h : w ∈ words t) : w ≠ [] ∧ ∀ c ∈ w, isBlank c = false := by
  induction t generalizing w with
  | nil => simp [words] at h
  | cons c t ih =>
    cases hc : isBlank c with
    | true => exact ih (by rwa [words_cons_blank hc] at h)
    | false =>
      rw [words_cons_ink hc] at h
      cases hw : words t with
      | nil =>
        simp only [hw, glue, List.mem_singleton] at h
        subst h
        exact ⟨by simp, by simpa using hc⟩
      | cons v vs =>
        have hv := ih (w := v) (by simp [hw])
        rw [hw] at h
        cases ht : startsWord t with
        | true =>
          simp only [ht, glue, if_true, List.mem_cons] at h
          rcases h with rfl | h
          · refine ⟨by simp, fun d hd => ?_⟩
            rcases List.mem_cons.1 hd with rfl | hd
            · exact hc
            · exact hv.2 d hd
          · exact ih (by simp [hw, h])
        | false =>
          simp only [ht, glue, Bool.false_eq_true, if_false, List.mem_cons] at h
          rcases h with rfl | rfl | h
          · exact ⟨by simp, by simpa using hc⟩
          · exact hv
          · exact ih (by simp [hw, h])

theorem words_append {w t : Text} (hne : w ≠ []) (hw : ∀ c ∈ w, isBlank c = false)
    (ht : startsWord t = false) : words (w ++ t) = w :: words t := by
  induction w with
  | nil => exact absurd rfl hne
  | cons c w ih =>
    have hc := hw c (by simp)
    rw [List.cons_append, words_cons_ink hc]
    cases w with
    | nil =>
      rw [List.nil_append, ht]
      cases words t <;> simp [glue]
    | cons d w =>
      have hd : startsWord (d :: w ++ t) = true := by
        simpa [startsWord] using hw d (by simp)
      rw [ih (by simp) (fun e he => hw e (List.mem_cons_of_mem _ he)), hd]
      simp [glue]

theorem words_unwords {ws : List Text}
    (h : ∀ w ∈ ws, w ≠ [] ∧ ∀ c ∈ w, isBlank c = false) : words (unwords ws) = ws := by
  induction ws with
  | nil => rfl
  | cons w ws ih =>
    have hw := h w (by simp)
    have ihs := ih (fun v hv => h v (List.mem_cons_of_mem _ hv))
    cases ws with
    | nil =>
      have : unwords [w] = w ++ [] := by simp [unwords, joinWith, List.intercalate]
      rw [this, words_append hw.1 hw.2 rfl]
      rfl
    | cons v ws =>
      have : unwords (w :: v :: ws) = w ++ ' ' :: unwords (v :: ws) := by
        simp [unwords, joinWith, List.intercalate, List.intersperse]
      rw [this, words_append hw.1 hw.2 rfl, words_cons_blank (by rfl), ihs]

theorem words_collapse (t : Text) : words (collapse t) = words t :=
  words_unwords fun _ h => mem_words h

end Text

end HeaderBindings
