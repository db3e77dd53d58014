import HeaderBindings.Proofs.Text.Collapse
import HeaderBindings.Text.Word

/-!
# Identifiers in a text

The markers of a header, and the names of C, are made of ASCII letters, digits and
underscores.  On these characters the classes that the readers use agree (`isIdent`).

`Text.names` lists the maximal runs of identifier characters of a text, in order.  A text
falls into its names wherever a character of no name stands (`Text.names_append`), so that
counting a name is additive over the parts of a text that such characters separate.
-/

namespace HeaderBindings

/-! ## 1. Identifier characters -/

/-- The characters of identifiers: the ASCII letters, the digits and the underscore. -/
def isIdent (c : Char) : Bool := c.isAlpha || c.isDigit || c == '_'

/-- All characters of the text are ASCII characters. -/
def IsAscii (t : Text) : Prop := ∀ c ∈ t, c.toNat < 0x80

/-- A text made of identifier characters. -/
def IsIdentText (t : Text) : Prop := t ≠ [] ∧ ∀ c ∈ t, isIdent c = true

instance (t : Text) : Decidable (IsAscii t) := by
  unfold IsAscii
  infer_instance

instance (t : Text) : Decidable (IsIdentText t) := by
  unfold IsIdentText
  infer_instance

/-- What holds of the first 128 characters holds of every ASCII character. -/
theorem of_ascii {p : Char → Prop} (h : ∀ n < 0x80, p (Char.ofNat n)) {c : Char}
    (hc : c.toNat < 0x80) : p c := by
  have hchar := h c.toNat hc
  rwa [Char.ofNat_toNat] at hchar

theorem isWord_eq_isIdent {c : Char} (h : c.toNat < 0x80) : isWord c = isIdent c :=
  isWord_of_ascii h

theorem isNamePart_eq_isIdent {c : Char} (h : c.toNat < 0x80) : isNamePart c = isIdent c := by
  rw [isNamePart_eq_isWord h, isWord_eq_isIdent h]

theorem toNat_lt_of_val_le {c d : Char} (h : c.val ≤ d.val) (hd : d.toNat < 0x80) :
    c.toNat < 0x80 :=
  Nat.lt_of_le_of_lt (UInt32.le_iff_toNat_le.1 h) hd

theorem toNat_lt_of_isIdent {c : Char} (h : isIdent c = true) : c.toNat < 0x80 := by
  simp only [isIdent, Bool.or_eq_true, beq_iff_eq] at h
  rcases h with (halpha | hdigit) | rfl
  · rcases Bool.or_eq_true_iff.1 halpha with hupper | hlower
    · have hrange : c.val ≥ 'A'.val ∧ c.val ≤ 'Z'.val := of_decide_eq_true hupper
      exact toNat_lt_of_val_le hrange.2 (by decide)
    · have hlast := (Bool.and_eq_true_iff.1 hlower).2
      exact toNat_lt_of_val_le (of_decide_eq_true hlast : c.val ≤ 'z'.val) (by decide)
  · have hlast := (Bool.and_eq_true_iff.1 hdigit).2
    exact toNat_lt_of_val_le (of_decide_eq_true hlast : c.val ≤ '9'.val) (by decide)
  · decide

theorem isWord_of_isIdent {c : Char} (h : isIdent c = true) : isWord c = true := by
  rw [isWord_eq_isIdent (toNat_lt_of_isIdent h), h]

theorem IsIdentText.isAscii {t : Text} (h : IsIdentText t) : IsAscii t := by
  intro c hc
  exact toNat_lt_of_isIdent (h.2 c hc)

theorem IsIdentText.not_mem {t : Text} (h : IsIdentText t) {c : Char}
    (hc : isIdent c = false) : c ∉ t := by
  intro hmem
  rw [h.2 c hmem] at hc
  cases hc

theorem isBlank_of_isIdent {c : Char} (h : isIdent c = true) : isBlank c = false :=
  of_ascii (p := fun c => isIdent c = true → isBlank c = false) (by decide) (toNat_lt_of_isIdent h) h

namespace Text

/-! ## 2. The names of a text -/

/-- A character outside of names, and a blank for it. -/
def blankOutside (c : Char) : Char := if isIdent c then c else ' '

/-- The maximal runs of identifier characters, in order. -/
def names (t : Text) : List Text := words (t.map blankOutside)

theorem isBlank_blankOutside {c : Char} (hc : isIdent c = false) :
    isBlank (blankOutside c) = true := by
  rw [blankOutside, hc]
  exact (by decide : isBlank ' ' = true)

/-- **Names are kept apart** by a character that belongs to none. -/
theorem names_append {c : Char} (hc : isIdent c = false) (x y : Text) :
    names (x ++ c :: y) = names x ++ names y := by
  rw [names, List.map_append, List.map_cons, words_append_blank (isBlank_blankOutside hc)]
  rfl

theorem names_cons {c : Char} (hc : isIdent c = false) (t : Text) :
    names (c :: t) = names t :=
  names_append hc [] t

/-- A run of identifier characters that goes no further is a name. -/
theorem names_ident_append {w t : Text} (hw : IsIdentText w)
    (ht : t.head?.any isIdent = false) : names (w ++ t) = w :: names t := by
  have hmap : w.map blankOutside = w := by
    refine (List.map_congr_left fun c hc => ?_).trans (List.map_id w)
    rw [blankOutside, hw.2 c hc]
    rfl
  rw [names, List.map_append, hmap]
  apply words_append hw.1 (fun c hc => isBlank_of_isIdent (hw.2 c hc))
  cases t with
  | nil => rfl
  | cons c t =>
    have hc : isIdent c = false := by simpa using ht
    simp [startsWord, isBlank_blankOutside hc]

theorem names_of_isIdentText {w : Text} (hw : IsIdentText w) : names w = [w] := by
  have h := names_ident_append (t := []) hw rfl
  rwa [List.append_nil] at h

theorem isIdentText_of_mem_names {t w : Text} (h : w ∈ names t) : IsIdentText w := by
  obtain ⟨hne, hink⟩ := mem_words h
  refine ⟨hne, ?_⟩
  intro c hc
  obtain ⟨d, -, rfl⟩ := List.mem_map.1 (mem_of_mem_words h hc)
  by_contra hd
  have hblank := hink _ hc
  by_cases hi : isIdent d = true
  · rw [blankOutside, hi] at hd
    exact hd hi
  · rw [isBlank_blankOutside (by simpa using hi)] at hblank
    cases hblank

theorem isInfix_of_mem_names {t w : Text} (h : w ∈ names t) : w <:+: t := by
  have hident := (isIdentText_of_mem_names h).2
  obtain ⟨a, b, hab⟩ := isInfix_of_mem_words h
  obtain ⟨x, y, ht, hx, -⟩ := List.map_eq_append_iff.1 hab.symm
  obtain ⟨x, w', rfl, -, hw'⟩ := List.map_eq_append_iff.1 hx
  -- only identifier characters are written as identifier characters
  have hsame : w'.map blankOutside = w' := by
    refine (List.map_congr_left fun c hc => ?_).trans (List.map_id w')
    have hc' := hident (blankOutside c) (by rw [← hw']; exact List.mem_map_of_mem hc)
    by_cases hi : isIdent c = true
    · rw [blankOutside, hi]
      rfl
    · rw [blankOutside, if_neg hi] at hc'
      exact absurd hc' (by decide)
  exact ⟨x, y, by rw [ht, ← hw', hsame]⟩

/-- The names behind the run of identifier characters that a text begins with. -/
theorem names_dropWhile (t : Text) :
    names t = names (t.takeWhile isIdent) ++ names (t.dropWhile isIdent) := by
  have hsplit := List.takeWhile_append_dropWhile (p := isIdent) (l := t)
  have hhead := any_head?_dropWhile isIdent t
  by_cases hrun : t.takeWhile isIdent = []
  · rw [hrun, List.nil_append] at hsplit
    rw [hrun, hsplit]
    rfl
  · have hw : IsIdentText (t.takeWhile isIdent) := by
      refine ⟨hrun, ?_⟩
      intro c hc
      exact List.mem_takeWhile_imp hc
    rw [names_of_isIdentText hw, List.singleton_append, ← names_ident_append hw hhead, hsplit]

end Text

end HeaderBindings
