import HeaderBindings.CType
import HeaderBindings.Proofs.Text.Pieces

/-!
# C types and their texts

A type is read for its words, its stars and its qualifier.  Stars and blanks keep words apart,
and what a word, a star or `const` says is added to what the rest of the text says, wherever it
stands (`Specifiers.ofText_word`, `Specifiers.ofText_star`, `Specifiers.ofText_const`).

`CType.text` writes every type in one order, `const` first and the stars last.  Since the reader
does not look at the order, a type that was read from any text is read from its own text again
(`CType.reads_own_text`).  Of the types that can be put together otherwise, just those are read
back whose base is spelled as the reader spells one, in words with single spaces between them
(`CType.IsSpelled`).  No word at all is such a spelling, too.
-/

namespace HeaderBindings

/-- A word that can stand in the base of a type. -/
structure IsTypeWord (w : Text) : Prop where
  isInk : Text.IsInk w
  star : '*' ∉ w
  ne_const : w ≠ constWord

/-! ## 1. Words between stars -/

/-- Nothing, a blank or a star: what may follow a word. -/
def StartsApart (t : Text) : Prop := ∀ c, t.head? = some c → isBlank c = true ∨ c = '*'

theorem startsApart_cons_blank {c : Char} (hc : isBlank c = true) (t : Text) :
    StartsApart (c :: t) := by
  intro d hd
  obtain rfl := Option.some.inj hd
  exact Or.inl hc

/-- Without stars no character is taken for a blank. -/
theorem map_star_eq_self {t : Text} (h : '*' ∉ t) :
    (t.map fun c => if c = '*' then ' ' else c) = t := by
  conv_rhs => rw [← List.map_id t]
  apply List.map_congr_left
  intro c hc
  have hne : c ≠ '*' := by
    rintro rfl
    exact h hc
  rw [if_neg hne, id]

theorem mem_of_mem_starlessWords {t w : Text} {c : Char} (hw : w ∈ starlessWords t)
    (hc : c ∈ w) : c ∈ t ∧ c ≠ '*' := by
  have hink := (Text.mem_words hw).2 c hc
  obtain ⟨d, hd, hdc⟩ := List.mem_map.1 (Text.mem_of_mem_words hw hc)
  split at hdc
  · rw [← hdc] at hink
    exact absurd hink (by decide)
  · rename_i hstar
    subst hdc
    exact ⟨hd, hstar⟩

theorem starlessWords_append {w t : Text} (hw : Text.IsInk w) (hstar : '*' ∉ w)
    (ht : StartsApart t) : starlessWords (w ++ t) = w :: starlessWords t := by
  have hstart : Text.startsWord (t.map fun c => if c = '*' then ' ' else c) = false := by
    cases t with
    | nil => rfl
    | cons c t =>
      rcases ht c rfl with hc | rfl
      · simp [Text.startsWord, ne_of_isBlank hc (by decide : isBlank '*' = false), hc]
      · rfl
  rw [starlessWords, List.map_append, map_star_eq_self hstar,
    Text.words_append hw.1 hw.2 hstart]
  rfl

theorem starlessWords_append_blank {c : Char} (hc : isBlank c = true) (a b : Text) :
    starlessWords (a ++ c :: b) = starlessWords a ++ starlessWords b := by
  rw [starlessWords, List.map_append, List.map_cons,
    if_neg (ne_of_isBlank hc (by decide : isBlank '*' = false)), Text.words_append_blank hc]
  rfl

/-- Words are kept apart by a star. -/
theorem starlessWords_append_star (a b : Text) :
    starlessWords (a ++ '*' :: b) = starlessWords a ++ starlessWords b := by
  rw [starlessWords, List.map_append, List.map_cons, if_pos rfl,
    Text.words_append_blank (by decide)]
  rfl

theorem starlessWords_append_stars (t : Text) (n : Nat) :
    starlessWords (t ++ List.replicate n '*') = starlessWords t := by
  induction n generalizing t with
  | zero => rw [List.replicate_zero, List.append_nil]
  | succ n ih =>
    have hnil : starlessWords [] = [] := rfl
    rw [List.replicate_succ, starlessWords_append_star, ← List.nil_append (List.replicate n '*'),
      ih, hnil, List.append_nil]

/-- A word behind a blank without a star is the last of the words. -/
theorem starlessWords_append_word {w : Text} (hw : Text.IsInk w) (hstar : '*' ∉ w) (t : Text) :
    starlessWords (t ++ ' ' :: w) = starlessWords t ++ [w] := by
  have hword : starlessWords w = [w] := by
    have happend := starlessWords_append hw hstar (t := []) nofun
    rwa [List.append_nil] at happend
  rw [starlessWords_append_blank (by decide), hword]

theorem star_notMem_unwords {ws : List Text} (h : ∀ w ∈ ws, '*' ∉ w) :
    '*' ∉ Text.unwords ws := by
  intro hmem
  rcases Text.mem_of_mem_unwords hmem with ⟨w, hw, hstar⟩ | heq
  · exact h w hw hstar
  · revert heq
    decide

theorem starlessWords_unwords {ws : List Text} (h : ∀ w ∈ ws, IsTypeWord w) :
    starlessWords (Text.unwords ws) = ws := by
  rw [starlessWords, map_star_eq_self (star_notMem_unwords fun w hw => (h w hw).star),
    Text.words_unwords fun w hw => (h w hw).isInk]

theorem count_star_append {w : Text} (hw : '*' ∉ w) (t : Text) :
    (w ++ t).count '*' = t.count '*' := by
  rw [List.count_append, List.count_eq_zero_of_not_mem hw, Nat.zero_add]

/-! ## 2. What the parts of a text say -/

namespace Specifiers

theorem ofText_congr {s t : Text} (hwords : starlessWords s = starlessWords t)
    (hstars : s.count '*' = t.count '*') : ofText s = ofText t := by
  rw [ofText, hwords, hstars]
  rfl

theorem ofText_star (t : Text) :
    ofText ('*' :: t) = { ofText t with stars := (ofText t).stars + 1 } := by
  have hwords : starlessWords ('*' :: t) = starlessWords t :=
    Text.words_cons_blank (by decide) _
  rw [ofText, hwords, List.count_cons_self]
  rfl

theorem ofText_const {t : Text} (ht : StartsApart t) :
    ofText (constWord ++ t) = { ofText t with isConst := true } := by
  have hstar : '*' ∉ constWord := by decide
  rw [ofText, starlessWords_append (by decide) hstar ht, count_star_append hstar,
    List.filter_cons_of_neg (by simp)]
  simp [ofText]

theorem ofText_word {w t : Text} (hw : IsTypeWord w) (ht : StartsApart t) :
    ofText (w ++ t) = { ofText t with words := w :: (ofText t).words } := by
  rw [ofText, starlessWords_append hw.isInk hw.star ht, count_star_append hw.star,
    List.filter_cons_of_pos (by simpa using hw.ne_const)]
  simp [ofText, Ne.symm hw.ne_const]

theorem ofText_blank {c : Char} (hc : isBlank c = true) (t : Text) :
    ofText (c :: t) = ofText t := by
  apply ofText_congr
  · exact starlessWords_append_blank hc [] t
  · exact List.count_cons_of_ne (ne_of_isBlank hc (by decide))

theorem ofText_append_word {w : Text} (hw : IsTypeWord w) (t : Text) :
    ofText (t ++ ' ' :: w) = { ofText t with words := (ofText t).words ++ [w] } := by
  have hfilter : [w].filter (· ≠ constWord) = [w] :=
    List.filter_cons_of_pos (by simpa using hw.ne_const)
  have hcount : (t ++ ' ' :: w).count '*' = t.count '*' := by
    rw [List.count_append, List.count_cons_of_ne (by decide),
      List.count_eq_zero_of_not_mem hw.star, Nat.add_zero]
  have hmem : constWord ∈ starlessWords t ++ [w] ↔ constWord ∈ starlessWords t := by
    simp [Ne.symm hw.ne_const]
  rw [ofText, starlessWords_append_word hw.isInk hw.star, List.filter_append, hfilter, hcount]
  simp only [hmem]
  rfl

theorem ofText_append_stars (t : Text) (n : Nat) :
    ofText (t ++ List.replicate n '*') =
      { ofText t with stars := (ofText t).stars + n } := by
  rw [ofText, starlessWords_append_stars, List.count_append, List.count_replicate_self]
  rfl

theorem ofText_unwords {ws : List Text} (h : ∀ w ∈ ws, IsTypeWord w) :
    ofText (Text.unwords ws) = ⟨ws, 0, false⟩ := by
  have hstar := star_notMem_unwords fun w hw => (h w hw).star
  have hconst : constWord ∉ ws := fun hmem => (h _ hmem).ne_const rfl
  have hfilter : ws.filter (· ≠ constWord) = ws :=
    List.filter_eq_self.2 fun w hw => decide_eq_true (h w hw).ne_const
  rw [ofText, starlessWords_unwords h, hfilter, List.count_eq_zero_of_not_mem hstar,
    decide_eq_false hconst]

theorem isTypeWord_of_mem_words {t w : Text} (h : w ∈ (ofText t).words) : IsTypeWord w := by
  obtain ⟨hword, hne⟩ := List.mem_filter.1 h
  refine ⟨Text.mem_words hword, ?_, of_decide_eq_true hne⟩
  intro hstar
  exact (mem_of_mem_starlessWords hword hstar).2 rfl

end Specifiers

/-! ## 3. Types and their texts -/

namespace CType

/-- The base is words with single spaces between them, and has neither a star nor `const`. -/
def IsSpelled (c : CType) : Prop :=
  ∃ ws, (∀ w ∈ ws, IsTypeWord w) ∧ c.base = Text.unwords ws

theorem isSpelled_ofText (t : Text) : (ofText t).IsSpelled :=
  ⟨_, fun _ hw => Specifiers.isTypeWord_of_mem_words hw, rfl⟩

theorem ofText_text_of_isSpelled {c : CType} (h : c.IsSpelled) : ofText c.text = c := by
  obtain ⟨base, depth, isConst⟩ := c
  obtain ⟨ws, hws, rfl⟩ := h
  have hbody : Specifiers.ofText (Text.unwords ws ++ List.replicate depth '*') =
      ⟨ws, depth, false⟩ := by
    rw [Specifiers.ofText_append_stars, Specifiers.ofText_unwords hws, Nat.zero_add]
  have hspecifiers : Specifiers.ofText (text ⟨Text.unwords ws, depth, isConst⟩) =
      ⟨ws, depth, isConst⟩ := by
    cases isConst with
    | false => exact hbody
    | true =>
      have htext : text ⟨Text.unwords ws, depth, true⟩ =
          constWord ++ ' ' :: (Text.unwords ws ++ List.replicate depth '*') :=
        List.append_assoc ..
      rw [htext, Specifiers.ofText_const (startsApart_cons_blank (by decide) _),
        Specifiers.ofText_blank (by decide), hbody]
  rw [ofText, hspecifiers]

/-- **A C type is read back from its text.**  What was read from a text is read from its own
    text again, and of all types just those are whose base is spelled in single-spaced words,
    with any number of stars and with or without the qualifier. -/
theorem reads_own_text :
    (∀ t, ofText (ofText t).text = ofText t) ∧ ∀ c : CType, ofText c.text = c ↔ c.IsSpelled := by
  refine ⟨fun t => ofText_text_of_isSpelled (isSpelled_ofText t), fun c => ⟨?_, ?_⟩⟩
  · intro h
    rw [← h]
    exact isSpelled_ofText c.text
  · exact ofText_text_of_isSpelled

/-- Every order is written in one, and a type without words keeps its stars and qualifier. -/
example : (ofText "unsigned*const\u2003long *").text = ("const unsigned long**" : Text) ∧
    ofText (text ⟨[], 2, true⟩) = ⟨[], 2, true⟩ := by decide

end CType

end HeaderBindings
