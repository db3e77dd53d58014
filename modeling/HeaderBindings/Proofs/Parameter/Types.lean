import HeaderBindings.Declarations
import HeaderBindings.Proofs.Parameter.Writing

/-!
# Types of parameters and of results

The type of a parameter and the type that a prototype returns are written in one notation, and
two readers read it: `Declarator.ofText`, which has to find the name besides, and
`CType.ofText`.  A text with a name behind it, which is no callback, is read by the one as the
other one reads it alone (`Declarator.ofText_append_name`), and so both types are mapped alike
(`Declarator.param_ofText_append_name`).

The text needs a word that is not `const`.  Without one the name would be the only word, and it
is taken for the type where it names one.
-/

namespace HeaderBindings

theorem CType.ofText_trim (t : Text) : ofText (Text.trim t) = ofText t := by
  rw [ofText, ignoresBlanks_specifiers.trim]
  rfl

/-- A callback's opening stands inside of a word, and a word without a star holds none. -/
theorem not_callbackMark_isInfix_append_word {w : Text} (hw : Text.IsInk w) (hstar : '*' ∉ w)
    {t : Text} (ht : ¬ callbackMark <:+: t) : ¬ callbackMark <:+: t ++ ' ' :: w := by
  rw [Text.isInfix_iff_exists_word isInk_callbackMark, Text.words_append_blank (by decide),
    hw.words_eq]
  rintro ⟨v, hv, hmark⟩
  rcases List.mem_append.1 hv with hv | hv
  · exact ht (hmark.trans (Text.isInfix_of_mem_words hv))
  · obtain rfl := List.mem_singleton.1 hv
    exact hstar (hmark.subset (by decide))

namespace Declarator

/-- **The reader of parameters reads types** as they are read alone, in front of a name. -/
theorem ofText_append_name (opaques : OpaqueTypes) (index : Nat) {t name : Text}
    (hmark : ¬ callbackMark <:+: t) (hword : ∃ w ∈ starlessWords t, w ≠ constWord)
    (hname : Text.IsInk name) (hstar : '*' ∉ name) (hconst : name ≠ constWord) :
    ofText opaques index (t ++ ' ' :: name) = .plain name (CType.ofText t) := by
  have hplain := callbackName?_eq_none_iff.2
    (not_callbackMark_isInfix_append_word hname hstar hmark)
  have hbase : (Specifiers.ofText t).words ≠ [] := by
    obtain ⟨w, hw, hne⟩ := hword
    exact List.ne_nil_of_mem (List.mem_filter.2 ⟨hw, by simpa using hne⟩)
  rw [ofText_of_plain hplain, Specifiers.ofText_append_word ⟨hname, hstar, hconst⟩,
    WrittenParam.nameAndBase_concat index hbase]
  rfl

/-- **Types of parameters are read and mapped like types of results.**  In front of a name, a
    text that opens no callback and has a word besides `const` and stars is read as the type
    that it is alone; and a prototype that returns it has that type too, and maps it alike. -/
theorem param_ofText_append_name (opaques : OpaqueTypes) (index : Nat) {t name : Text}
    (hmark : ¬ callbackMark <:+: t) (hword : ∃ w ∈ starlessWords t, w ≠ constWord)
    (hname : Text.IsInk name) (hstar : '*' ∉ name) (hconst : name ≠ constWord) :
    let d := ofText opaques index (t ++ " " ++ name)
    (d.param opaques).name = name ∧ (d.param opaques).cType = CType.ofText t ∧
      ∀ (p : Header.Prototype) (stripped : Text), p.returnText = t →
        (d.param opaques).type = (p.function opaques stripped).returnType ∧
          d.mappedType? = some p.returnCType := by
  intro d
  have hd : d = .plain name (CType.ofText t) := by
    have hsplit : (t ++ " " ++ name : Text) = t ++ ' ' :: name := by simp
    rw [← ofText_append_name opaques index hmark hword hname hstar hconst, ← hsplit]
  refine ⟨by rw [hd]; rfl, by rw [hd]; rfl, ?_⟩
  rintro p stripped rfl
  have hreturn : p.returnCType = CType.ofText p.returnText := CType.ofText_trim p.returnText
  rw [hd, hreturn, Header.Prototype.function, hreturn]
  exact ⟨rfl, rfl⟩

/-- Several words with a qualifier between stars, blanks beyond ASCII, and a name with
    parentheses. -/
theorem param_ofText_append_name_of_blanks :
    let t : Text := "\u00a0unsigned\u2003*const*long int("
    let name : Text := "(v)[4]"
    ¬ callbackMark <:+: t ∧ (∃ w ∈ starlessWords t, w ≠ constWord) ∧ Text.IsInk name ∧
      '*' ∉ name ∧ name ≠ constWord ∧
      ((ofText .empty 3 (t ++ " " ++ name)).param .empty).name = name ∧
      ((ofText .empty 3 (t ++ " " ++ name)).param .empty).cType = CType.ofText t := by
  have hmark : ¬ callbackMark <:+: "\u00a0unsigned\u2003*const*long int(" := by decide
  have hword : ∃ w ∈ starlessWords "\u00a0unsigned\u2003*const*long int(", w ≠ constWord := by
    decide
  have hname : Text.IsInk "(v)[4]" := by decide
  have h := param_ofText_append_name .empty 3 hmark hword hname (by decide) (by decide)
  exact ⟨hmark, hword, hname, by decide, by decide, h.1, h.2.1⟩

end Declarator

end HeaderBindings
