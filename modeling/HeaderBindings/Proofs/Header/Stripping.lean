import HeaderBindings.Header.Normal
import HeaderBindings.Proofs.Text.Collapse

/-!
# What stripping writes

`Header.strip` reads a header with a scanner that knows in which kind of place it stands.
Two facts about it are used wherever a header is normalised.

* It brings in nothing but slashes, spaces and line breaks (`mem_of_mem_strip`), so that a
  normal form has only characters of the header besides these.
* Of a text that it meets in code and leaves in code it writes what `StripsTo` says, however
  the line began.  Such texts can be put together (`StripsTo.append`), and a text without
  slashes, hashes and quotes is written as it stands (`stripsTo_plain`).
-/

namespace HeaderBindings.Header

/-! ## 1. The characters of a normal form -/

theorem mem_of_mem_stepCode {lineStart : Bool} {c d : Char}
    (h : d ∈ (Mode.stepCode lineStart c).2) : d = c := by
  unfold Mode.stepCode at h
  split at h
  · simp at h
  · split at h
    · simp at h
    · split at h <;> simpa using h

/-- What is written for a character is the character itself, a slash that was held back,
    the space for a block comment, or the line break behind a line. -/
theorem mem_of_mem_step {m : Mode} {c d : Char} (h : d ∈ (m.step c).2) :
    d = c ∨ d = '/' ∨ d = ' ' := by
  cases m with
  | code lineStart => exact Or.inl (mem_of_mem_stepCode h)
  | slash =>
    simp only [Mode.step] at h
    split at h
    · simp at h
    · split at h
      · right; right
        simpa using h
      · rcases List.mem_cons.1 h with h | h
        · exact Or.inr (Or.inl h)
        · exact Or.inl (mem_of_mem_stepCode h)
  | lineComment =>
    simp only [Mode.step] at h
    split at h
    · rename_i hc
      left
      rw [hc]
      simpa using h
    · simp at h
  | blockComment star =>
    simp only [Mode.step] at h
    split at h <;> simp at h
  | directive continued =>
    simp only [Mode.step] at h
    split at h
    · rename_i hc
      split at h
      · simp at h
      · left
        rw [hc]
        simpa using h
    · split at h <;> simp at h
  | literal quote escaped =>
    left
    simp only [Mode.step] at h
    split at h
    · simpa using h
    · split at h
      · simpa using h
      · split at h <;> simpa using h

theorem mem_of_mem_output {m : Mode} {t : Text} {d : Char} (h : d ∈ m.output t) :
    d ∈ t ∨ d = '/' ∨ d = ' ' := by
  induction t generalizing m with
  | nil => cases h
  | cons c t ih =>
    rw [Mode.output_cons, List.mem_append] at h
    rcases h with h | h
    · rcases mem_of_mem_step h with rfl | h
      · exact Or.inl (by simp)
      · exact Or.inr h
    · rcases ih h with h | h
      · exact Or.inl (List.mem_cons_of_mem _ h)
      · exact Or.inr h

theorem mem_of_mem_strip {t : Text} {d : Char} (h : d ∈ strip t) :
    d ∈ t ∨ d = '/' ∨ d = ' ' := by
  rw [strip, List.mem_append] at h
  rcases h with h | h
  · exact mem_of_mem_output h
  · cases hm : Mode.initial.after t with
    | slash =>
      rw [hm] at h
      exact Or.inr (Or.inl (by simpa [Mode.flush] using h))
    | _ =>
      rw [hm] at h
      simp [Mode.flush] at h

/-- A normal form has only characters of the header, slashes and spaces. -/
theorem mem_of_mem_normalize {t : Text} {d : Char} (h : d ∈ normalize t) :
    d ∈ t ∨ d = '/' ∨ d = ' ' := by
  rcases Text.mem_of_mem_collapse h with h | h
  · exact mem_of_mem_strip h
  · exact Or.inr (Or.inr h)

/-! ## 2. Texts that are read as code -/

/-- Met in code, the text `t` is left in code, and `u` is written for it. -/
def StripsTo (t u : Text) : Prop :=
  ∀ b, (Mode.code b).output t = u ∧ ∃ b', (Mode.code b).after t = .code b'

theorem stripsTo_nil : StripsTo [] [] := by
  intro b
  exact ⟨rfl, b, rfl⟩

theorem StripsTo.append {t u t' u' : Text} (h : StripsTo t u) (h' : StripsTo t' u') :
    StripsTo (t ++ t') (u ++ u') := by
  intro b
  obtain ⟨ho, b₁, ha⟩ := h b
  obtain ⟨ho', b₂, ha'⟩ := h' b₁
  refine ⟨?_, b₂, ?_⟩
  · rw [Mode.output_append, ho, ha, ho']
  · rw [Mode.after_append, ha, ha']

/-- The characters that open no comment, no directive and no literal. -/
def IsPlain (t : Text) : Prop := ∀ c ∈ t, c ≠ '/' ∧ c ≠ '#' ∧ c ≠ '"' ∧ c ≠ '\''

instance (t : Text) : Decidable (IsPlain t) := by
  unfold IsPlain
  infer_instance

theorem isPlain_of_isBlankText {t : Text} (h : IsBlankText t) : IsPlain t := by
  intro c hc
  refine ⟨?_, ?_, ?_, ?_⟩
  all_goals
    rintro rfl
    exact absurd hc (h.not_mem (by decide))

theorem stripsTo_plain {t : Text} (h : IsPlain t) : StripsTo t t := by
  induction t with
  | nil => exact stripsTo_nil
  | cons c t ih =>
    obtain ⟨h₁, h₂, h₃, h₄⟩ := h c (by simp)
    have hc : StripsTo [c] [c] := by
      intro b
      have hstep : Mode.stepCode b c = (.code (c = '\n' || (b && isBlank c)), [c]) := by
        simp [Mode.stepCode, h₁, h₂, h₃, h₄]
      refine ⟨?_, (c = '\n' || (b && isBlank c)), ?_⟩
      · rw [Mode.output_cons, Mode.step, hstep]
        rfl
      · rw [Mode.after_cons, Mode.step, hstep]
        rfl
    exact hc.append (ih fun d hd => h d (List.mem_cons_of_mem _ hd))

theorem StripsTo.strip_eq {t u : Text} (h : StripsTo t u) : strip t = u := by
  obtain ⟨ho, b, ha⟩ := h true
  have ho : Mode.initial.output t = u := ho
  have ha : Mode.initial.after t = .code b := ha
  have hflush : (Mode.code b).flush = [] := rfl
  rw [strip, ho, ha, hflush, List.append_nil]

end HeaderBindings.Header
