import HeaderBindings.Proofs.Artifact.Extracted
import HeaderBindings.Proofs.Parameter.Blanks

/-!
# Every list is read

A parameter list can be any text: callbacks that are cut short, lone stars and qualifiers,
parentheses that do not match.  Unless it is blank or `void`, it has one parameter for each of its
parts with a word (`declarators_eq_parts`), and whatever the part is, the parameter has a name of
one word and a base type (`isInk_name_ofText`, `base_ofText_ne_nil`).

A part declares no name if it is a callback without one, if it has qualifiers and stars only, or
if its only word names a type (`IsUnnamed`).  Then the parameter is called after its position,
and only then does its name depend on where it stands.
-/

namespace HeaderBindings

/-! ## 1. One declarator -/

theorem positionalName_injective : Function.Injective positionalName :=
  fun _ _ h => Text.ofNat_injective (List.append_cancel_left h)

theorem isInk_positionalName (index : Nat) : Text.IsInk (positionalName index) := by
  obtain ⟨hne, hchars⟩ := isArgumentName_positionalName index
  exact ⟨hne, fun c hc => (hchars c hc).1⟩

namespace Declarator

variable {opaques : OpaqueTypes} {t : Text}

/-- The text declares no name for its parameter. -/
inductive IsUnnamed (opaques : OpaqueTypes) (t : Text) : Prop where
  /-- Nothing but stars and qualifiers stands where a callback has its name. -/
  | callback (h : callbackName? t = some [])
  | qualifiers (h : callbackName? t = none) (hwords : (Specifiers.ofText t).words = [])
  | type {word : Text} (h : callbackName? t = none) (hwords : (Specifiers.ofText t).words = [word])
      (htype : TypeMapping.namesType opaques word = true)

theorem name_of_isUnnamed (h : IsUnnamed opaques t) (index : Nat) :
    ((ofText opaques index t).param opaques).name = positionalName index := by
  cases h with
  | callback h =>
    rw [ofText_of_callback h]
    rfl
  | qualifiers h hwords =>
    rw [ofText_of_plain h, hwords]
    rfl
  | type h hwords htype =>
    rw [ofText_of_plain h, hwords]
    show (nameAndBase opaques index _).1 = positionalName index
    rw [nameAndBase, if_pos htype]

/-- A name that is declared is the same at every position. -/
theorem name_of_not_isUnnamed (h : ¬ IsUnnamed opaques t) (i j : Nat) :
    ((ofText opaques i t).param opaques).name = ((ofText opaques j t).param opaques).name := by
  cases hname : callbackName? t with
  | some name =>
    have hne : name ≠ [] := by
      rintro rfl
      exact h (.callback hname)
    rw [ofText_of_callback hname, ofText_of_callback hname, if_neg hne, if_neg hne]
  | none =>
    rw [ofText_of_plain hname, ofText_of_plain hname]
    show (nameAndBase opaques i _).1 = (nameAndBase opaques j _).1
    rcases hwords : (Specifiers.ofText t).words with _ | ⟨word, _ | ⟨next, rest⟩⟩
    · exact absurd (.qualifiers hname hwords) h
    · have htype : ¬ TypeMapping.namesType opaques word = true :=
        fun htype => h (.type hname hwords htype)
      rw [nameAndBase, nameAndBase, if_neg htype, if_neg htype]
    · rfl

theorem isInk_of_mem_specifiers {w : Text} (h : w ∈ (Specifiers.ofText t).words) : Text.IsInk w :=
  Text.mem_words (List.mem_of_mem_filter h)

/-- **Every parameter has a name** of one word. -/
theorem isInk_name_ofText (opaques : OpaqueTypes) (index : Nat) (t : Text) :
    Text.IsInk ((ofText opaques index t).param opaques).name := by
  cases hname : callbackName? t with
  | some name =>
    rw [ofText_of_callback hname]
    by_cases hne : name = []
    · rw [if_pos hne]
      exact isInk_positionalName index
    · rw [if_neg hne]
      obtain ⟨-, hchars⟩ := isArgumentName_callbackName hname hne
      exact ⟨hne, fun c hc => (hchars c hc).1⟩
  | none =>
    rw [ofText_of_plain hname]
    show Text.IsInk (nameAndBase opaques index (Specifiers.ofText t).words).1
    rcases name_nameAndBase opaques index (Specifiers.ofText t).words with heq | hmem
    · rw [heq]
      exact isInk_positionalName index
    · exact isInk_of_mem_specifiers hmem

theorem base_nameAndBase_ne_nil (opaques : OpaqueTypes) (index : Nat) {ws : List Text}
    (h : ∀ w ∈ ws, w ≠ []) : (nameAndBase opaques index ws).2 ≠ [] := by
  rcases ws with _ | ⟨word, _ | ⟨next, rest⟩⟩
  · exact List.cons_ne_nil _ _
  · rw [nameAndBase]
    split
    · exact h word List.mem_cons_self
    · exact List.cons_ne_nil _ _
  · exact Text.unwords_ne_nil (h word List.mem_cons_self) _

/-- **Every parameter has a base type.** -/
theorem base_ofText_ne_nil (opaques : OpaqueTypes) (index : Nat) (t : Text) :
    ((ofText opaques index t).param opaques).cType.base ≠ [] := by
  cases hname : callbackName? t with
  | some name =>
    rw [ofText_of_callback hname]
    exact List.cons_ne_nil _ _
  | none =>
    rw [ofText_of_plain hname]
    exact base_nameAndBase_ne_nil opaques index fun w hw => (isInk_of_mem_specifiers hw).1

end Declarator

/-! ## 2. Lists -/

namespace ParameterList

variable {opaques : OpaqueTypes} {list : Text}

/-- A list without parameters. -/
def IsVoid (list : Text) : Prop := IsBlankText list ∨ Text.trim list = "void"

/-- The parts of a list between the commas that cut it, without the blank ones. -/
def parts (list : Text) : List Text :=
  (segments (Text.collapse list)).filter fun s => ¬ IsBlankText s

theorem collapse_eq_nil_iff : Text.collapse list = [] ↔ IsBlankText list := by
  rw [← Text.words_eq_nil_iff, ← Text.words_collapse]
  constructor
  · intro h
    rw [h]
    rfl
  · intro h
    rw [Text.collapse, ← Text.words_collapse, h]
    rfl

theorem collapse_eq_iff_trim_eq {w : Text} (hw : Text.IsInk w) :
    Text.collapse list = w ↔ Text.trim list = w := by
  constructor
  · intro h
    have hwords : Text.words (Text.trim list) = [w] := by
      rw [Text.words_trim, ← Text.words_collapse, h, hw.words_eq]
    obtain ⟨-, -, -, -, -, hstart, hend⟩ := Text.exists_trim list
    refine Text.eq_of_words_eq_singleton hwords ?_ hend
    cases htrim : Text.trim list with
    | nil =>
      rw [htrim] at hwords
      cases hwords
    | cons c u =>
      rw [htrim] at hstart
      simpa [Text.startsWord, Text.startsBlank] using hstart
  · intro h
    rw [Text.collapse, ← Text.words_trim, h, hw.words_eq, Text.unwords_singleton]

theorem isVoid_iff : IsVoid list ↔
    Text.collapse list = [] ∨ Text.collapse list = ("void" : Text) := by
  rw [IsVoid, collapse_eq_nil_iff, collapse_eq_iff_trim_eq (by decide)]

/-- **A list is read part by part**, unless it has no parameters. -/
theorem declarators_eq_parts (h : ¬ IsVoid list) :
    declarators opaques list = (parts list).mapIdx (Declarator.ofText opaques) := by
  have hparts : parts list =
      (segments (Text.collapse list)).filter fun s => Text.words s ≠ [] := by
    simp only [parts, ne_eq, Text.words_eq_nil_iff]
  rw [declarators, if_neg (mt isVoid_iff.2 h), hparts]
  exact mapIdx_congr_of_map (by rw [declarations, map_filter_trim, map_filter_words])

theorem getElem?_params (h : ¬ IsVoid list) (i : Nat) :
    (params opaques list)[i]? =
      (parts list)[i]?.map fun s => (Declarator.ofText opaques i s).param opaques := by
  rw [params, declarators_eq_parts h, List.getElem?_map, List.getElem?_mapIdx, Option.map_map]
  rfl

/-- The parameter at a position has no declared name. -/
def TakesPlaceholder (opaques : OpaqueTypes) (list : Text) (i : Nat) : Prop :=
  ∃ s, (parts list)[i]? = some s ∧ Declarator.IsUnnamed opaques s

/-- What is read of a list. -/
structure Reads (opaques : OpaqueTypes) (list : Text) (ps : List Param) : Prop where
  empty : IsVoid list → ps = []
  length : ¬ IsVoid list → ps.length = (parts list).length
  name : ∀ p ∈ ps, Text.IsInk p.name
  base : ∀ p ∈ ps, p.cType.base ≠ []
  placeholder : ∀ (i : Nat) (p : Param), ps[i]? = some p → TakesPlaceholder opaques list i →
    p.name = "arg" ++ Text.ofNat i
  /-- Any other name would be the same at another position. -/
  declared : ∀ (i : Nat) (p : Param) (s : Text), ps[i]? = some p → (parts list)[i]? = some s →
    ¬ TakesPlaceholder opaques list i →
      ∀ j, ((Declarator.ofText opaques j s).param opaques).name = p.name
  distinct : ∀ (i j : Nat) (p q : Param), ps[i]? = some p → ps[j]? = some q →
    TakesPlaceholder opaques list i → TakesPlaceholder opaques list j → p.name = q.name → i = j

theorem exists_part_of_getElem? {i : Nat} {p : Param} (hp : (params opaques list)[i]? = some p) :
    ∃ s, (parts list)[i]? = some s ∧ p = (Declarator.ofText opaques i s).param opaques := by
  by_cases hvoid : IsVoid list
  · rw [params, declarators, if_pos (isVoid_iff.1 hvoid)] at hp
    cases hp
  · rw [getElem?_params hvoid] at hp
    obtain ⟨s, hs, rfl⟩ := Option.map_eq_some_iff.1 hp
    exact ⟨s, hs, rfl⟩

theorem name_of_takesPlaceholder {i : Nat} {p : Param} (hp : (params opaques list)[i]? = some p)
    (h : TakesPlaceholder opaques list i) : p.name = positionalName i := by
  obtain ⟨s, hs, rfl⟩ := exists_part_of_getElem? hp
  obtain ⟨u, hu, hunnamed⟩ := h
  obtain rfl := Option.some.inj (hs.symm.trans hu)
  exact Declarator.name_of_isUnnamed hunnamed i

/-- **Every list is read**, whatever text it is: it has no parameter if it is blank or `void`, and
    otherwise one for each of its parts that are not blank.  Each has a name of one word and a base
    type, and those without a declared name are told apart by their positions. -/
theorem reads_params (opaques : OpaqueTypes) (list : Text) :
    Reads opaques list (params opaques list) where
  empty h := by
    rw [params, declarators, if_pos (isVoid_iff.1 h)]
    rfl
  length h := by rw [params, declarators_eq_parts h, List.length_map, List.length_mapIdx]
  name p hp := by
    obtain ⟨index, t, -, rfl⟩ := exists_ofText_of_mem_params hp
    exact Declarator.isInk_name_ofText opaques index t
  base p hp := by
    obtain ⟨index, t, -, rfl⟩ := exists_ofText_of_mem_params hp
    exact Declarator.base_ofText_ne_nil opaques index t
  placeholder i p hp h := name_of_takesPlaceholder hp h
  declared i p s hp hs h j := by
    obtain ⟨u, hu, rfl⟩ := exists_part_of_getElem? hp
    obtain rfl := Option.some.inj (hs.symm.trans hu)
    exact Declarator.name_of_not_isUnnamed (fun hunnamed => h ⟨s, hs, hunnamed⟩) j i
  distinct i j p q hp hq hi hj heq := by
    rw [name_of_takesPlaceholder hp hi, name_of_takesPlaceholder hq hj] at heq
    exact positionalName_injective heq

/-- A callback without a name, a lone qualifier, a type, a stray parenthesis and a callback that is
    cut short. -/
example : (params .empty "int (*)(void), ,const *, size_t, x)\t, void (*const on").map (·.name) =
    [("arg0" : Text), "arg1", "arg2", "x)", "on"] := by
  decide

end ParameterList

end HeaderBindings
