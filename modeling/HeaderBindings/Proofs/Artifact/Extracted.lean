import HeaderBindings.Proofs.Artifact.BareNames
import HeaderBindings.Proofs.CType
import HeaderBindings.Proofs.Header.Grammar
import HeaderBindings.Proofs.OpaqueTypes
import HeaderBindings.Proofs.Parameter.Segments
import HeaderBindings.Proofs.Stems
import HeaderBindings.Proofs.TypeMapping

/-!
# What extracted declarations are made of

Whatever the header is, the names of an extracted function have no delimiter, its types
are spelled without a comma or a colon, and its parameter names have no blank and no
closing parenthesis.  These are the facts that make generated lines readable again
(`Conventions.isClean_extract`).
-/

namespace HeaderBindings

/-! ## 1. Matched names -/

namespace Header

theorem read?_sound {m : Markers} {before : Option Char} {t rest : Text} {p : Prototype}
    (h : Prototype.read? m before t = some (p, rest)) : IsName p.name ∧ ')' ∉ p.paramText := by
  obtain ⟨ret, name, params⟩ := p
  obtain ⟨-, u, -, hbody⟩ := Prototype.read?_eq_some_iff.1 h
  obtain ⟨v, -, -, hdeclared⟩ := Prototype.body?_eq_some_iff.1 hbody
  obtain ⟨s₁, s₂, -, -, hname, hparams, -⟩ := Prototype.declared?_eq_some_iff.1 hdeclared
  exact ⟨hname, hparams⟩

theorem isName_of_mem_matchesFrom {m : Markers} {place skip : Nat} {before : Option Char}
    {t : Text} {x : Match} (h : x ∈ matchesFrom m place skip before t) :
    IsName x.prototype.name ∧ ')' ∉ x.prototype.paramText := by
  induction t generalizing place skip before with
  | nil => cases h
  | cons c t ih =>
    unfold matchesFrom at h
    split at h
    · exact ih h
    · split at h
      · rename_i p tail hread
        rcases List.mem_cons.1 h with rfl | h
        · exact read?_sound hread
        · exact ih h
      · exact ih h

/-- A prototype is written with characters of the text. -/
theorem subset_of_read? {m : Markers} {before : Option Char} {t rest : Text} {p : Prototype}
    (h : Prototype.read? m before t = some (p, rest)) : p.name ⊆ t ∧ p.paramText ⊆ t := by
  obtain ⟨ret, name, params⟩ := p
  obtain ⟨-, u, rfl, hbody⟩ := Prototype.read?_eq_some_iff.1 h
  obtain ⟨v, rfl, -, hdeclared⟩ := Prototype.body?_eq_some_iff.1 hbody
  obtain ⟨s₁, s₂, -, -, -, -, rfl⟩ := Prototype.declared?_eq_some_iff.1 hdeclared
  constructor
  · intro c hc
    simp [show c ∈ name from hc]
  · intro c hc
    simp [show c ∈ params from hc]

theorem subset_of_mem_matchesFrom {m : Markers} {place skip : Nat} {before : Option Char}
    {t : Text} {x : Match} (h : x ∈ matchesFrom m place skip before t) :
    x.prototype.name ⊆ t ∧ x.prototype.paramText ⊆ t := by
  induction t generalizing place skip before with
  | nil => cases h
  | cons c t ih =>
    have hrest : ∀ {place skip before}, x ∈ matchesFrom m place skip before t →
        x.prototype.name ⊆ c :: t ∧ x.prototype.paramText ⊆ c :: t := fun h =>
      ⟨List.subset_cons_of_subset c (ih h).1, List.subset_cons_of_subset c (ih h).2⟩
    unfold matchesFrom at h
    split at h
    · exact hrest h
    · split at h
      · rename_i p tail hread
        rcases List.mem_cons.1 h with rfl | h
        · exact subset_of_read? hread
        · exact hrest h
      · exact hrest h

theorem isName_of_mem_typedefsFrom {skip : Nat} {t : Text} {d : Typedef}
    (h : d ∈ typedefsFrom skip t) : IsName d.aliasName := by
  induction t generalizing skip with
  | nil => cases h
  | cons c t ih =>
    unfold typedefsFrom at h
    split at h
    · exact ih h
    · split at h
      · rename_i e tail hread
        rcases List.mem_cons.1 h with rfl | h
        · obtain ⟨s, -, -, halias, -⟩ := Typedef.read?_eq_some_iff.1 hread
          exact halias
        · exact ih h
      · exact ih h

end Header

/-! ## 2. Parameter names -/

/-- A name that can stand in the parameter list of a prototype. -/
def IsArgumentName (name : Text) : Prop :=
  name ≠ [] ∧ ∀ c ∈ name, isBlank c = false ∧ c ≠ ')'

theorem mem_of_mem_trim {t : Text} {c : Char} (h : c ∈ Text.trim t) : c ∈ t := by
  have hstart : c ∈ Text.trimStart t := by
    have := List.mem_reverse.1 h
    exact List.mem_reverse.1 ((List.dropWhile_sublist _).subset this)
  exact (List.dropWhile_sublist _).subset hstart

theorem isIdent_of_mem_positionalName {index : Nat} {c : Char}
    (hc : c ∈ positionalName index) : isIdent c = true := by
  rcases List.mem_append.1 hc with hc | hc
  · have hall : ∀ d ∈ ("arg" : Text), isIdent d = true := by decide
    exact hall c hc
  · simp [isIdent, Text.isDigit_of_mem_ofNat hc]

theorem isArgumentName_positionalName (index : Nat) :
    IsArgumentName (positionalName index) := by
  refine ⟨by simp [positionalName], ?_⟩
  intro c hc
  have hident := isIdent_of_mem_positionalName hc
  refine ⟨isBlank_of_isIdent hident, ?_⟩
  rintro rfl
  exact absurd hident (by decide)

theorem isArgumentName_of_mem_starlessWords {t w : Text} (ht : ')' ∉ t)
    (h : w ∈ starlessWords t) : IsArgumentName w := by
  obtain ⟨hne, hink⟩ := Text.mem_words h
  refine ⟨hne, ?_⟩
  intro c hc
  refine ⟨hink c hc, ?_⟩
  rintro rfl
  exact ht (mem_of_mem_starlessWords h hc).1

theorem getLastD_mem (v : Text) (vs : List Text) : (v :: vs).getLastD [] ∈ v :: vs := by
  rw [List.getLastD_cons]
  exact List.getLastD_mem_cons

theorem isArgumentName_callbackName {t name : Text} (h : callbackName? t = some name)
    (hne : name ≠ []) : IsArgumentName name := by
  refine ⟨hne, ?_⟩
  intro c hc
  obtain ⟨rest, -, rfl⟩ := Option.map_eq_some_iff.1 h
  have hlast := (List.dropWhile_sublist _).subset hc
  -- the name is what follows the stars of the last word
  generalize hws : (Text.words (rest.takeWhile (· ≠ ')'))).filter (· ≠ constWord) = ws at hlast
  have hword : ws.getLastD [] ∈ ws := by
    cases ws with
    | nil => cases hlast
    | cons v vs => exact getLastD_mem v vs
  rw [← hws] at hword hlast
  have hmem := List.mem_of_mem_filter hword
  refine ⟨(Text.mem_words hmem).2 c hlast, ?_⟩
  simpa using List.mem_takeWhile_imp (Text.mem_of_mem_words hmem hlast)

/-- The name of a declarator is one of its words, if it is not the name of its position. -/
theorem name_nameAndBase (opaques : OpaqueTypes) (index : Nat) (ws : List Text) :
    (Declarator.nameAndBase opaques index ws).1 = positionalName index ∨
      (Declarator.nameAndBase opaques index ws).1 ∈ ws := by
  rcases ws with _ | ⟨w, _ | ⟨v, vs⟩⟩
  · exact Or.inl rfl
  · by_cases hname : TypeMapping.namesType opaques w = true
    · simp only [Declarator.nameAndBase, hname, if_true]
      exact Or.inl trivial
    · simp only [Declarator.nameAndBase, hname]
      exact Or.inr List.mem_cons_self
  · exact Or.inr (List.mem_cons_of_mem _ (getLastD_mem v vs))

theorem isArgumentName_nameAndBase {opaques : OpaqueTypes} {index : Nat} {ws : List Text}
    (h : ∀ w ∈ ws, IsArgumentName w) :
    IsArgumentName (Declarator.nameAndBase opaques index ws).1 := by
  rcases name_nameAndBase opaques index ws with heq | hmem
  · rw [heq]
    exact isArgumentName_positionalName index
  · exact h _ hmem

theorem isArgumentName_ofText {opaques : OpaqueTypes} {index : Nat} {t : Text}
    (ht : ')' ∉ t) : IsArgumentName ((Declarator.ofText opaques index t).param opaques).name := by
  have htrim : ')' ∉ Text.trim t := fun h => ht (mem_of_mem_trim h)
  unfold Declarator.ofText
  split
  · rename_i name hname
    by_cases hne : name = []
    · simp only [hne, if_true, Declarator.param]
      exact isArgumentName_positionalName index
    · simp only [hne, if_false, Declarator.param]
      exact isArgumentName_callbackName hname hne
  · show IsArgumentName
      (Declarator.nameAndBase opaques index (Specifiers.ofText (Text.trim t)).words).1
    apply isArgumentName_nameAndBase
    intro w hw
    exact isArgumentName_of_mem_starlessWords htrim (List.mem_of_mem_filter hw)

namespace ParameterList

theorem exists_ofText_of_mem_params {opaques : OpaqueTypes} {list : Text} {p : Param}
    (h : p ∈ params opaques list) :
    ∃ index, ∃ t ∈ declarations (Text.collapse list),
      p = (Declarator.ofText opaques index t).param opaques := by
  obtain ⟨d, hd, rfl⟩ := List.mem_map.1 h
  unfold declarators at hd
  simp only at hd
  split at hd
  · cases hd
  · obtain ⟨index, hindex, rfl⟩ := List.mem_mapIdx.1 hd
    exact ⟨index, _, List.getElem_mem hindex, rfl⟩

theorem isArgumentName_of_mem_params {opaques : OpaqueTypes} {list : Text} (hlist : ')' ∉ list)
    {p : Param} (h : p ∈ params opaques list) : IsArgumentName p.name := by
  obtain ⟨index, t, ht, rfl⟩ := exists_ofText_of_mem_params h
  obtain ⟨s, hs, rfl⟩ := List.mem_map.1 (List.mem_of_mem_filter ht)
  apply isArgumentName_ofText
  intro hclose
  rcases Text.mem_of_mem_collapse (mem_of_mem_segmentsFrom hs (mem_of_mem_trim hclose)) with
    hmem | hspace
  · exact hlist hmem
  · revert hspace
    decide

end ParameterList

/-! ## 3. Types -/

namespace SignatureType

/-- A type of values: it has no unit type in it, and its handles have bare names. -/
def IsValue : SignatureType → Prop
  | .unit => False
  | .untyped => True
  | .machineWord => True
  | .scalar _ => True
  | .pointer _ pointee => pointee.IsValue
  | .handle name => name ≠ [] ∧ IsBare name

/-- The types of extracted signatures: no value at all, or a type of values. -/
def IsClean (t : SignatureType) : Prop := t = .unit ∨ t.IsValue

theorem IsValue.underPointers {t : SignatureType} (h : t.IsValue) (depth : Nat)
    (isConst : Bool) : (t.underPointers depth isConst).IsValue := by
  induction depth with
  | zero => exact h
  | succ depth ih =>
    cases depth with
    | zero => exact h
    | succ depth => exact ih

theorem IsValue.notMem_text {t : SignatureType} (h : t.IsValue) {c : Char}
    (hc : c ∈ delimiters) (hspace : c ≠ ' ') : c ∉ t.text := by
  have hfixed : ∀ w ∈ (["c_void", "usize", "*mut ", "*const "] : List String),
      ∀ d ∈ delimiters, d ≠ ' ' → d ∉ w.toList := by decide
  have hscalar : ∀ p : Scalar, ∀ d ∈ delimiters, d ∉ p.text := by
    intro p
    cases p <;> decide
  induction t with
  | unit => exact absurd h id
  | untyped => exact hfixed "c_void" (by simp) c hc hspace
  | machineWord => exact hfixed "usize" (by simp) c hc hspace
  | scalar p => exact hscalar p c hc
  | pointer isMut pointee ih =>
    intro hmem
    cases isMut with
    | true =>
      rcases List.mem_append.1 hmem with hmem | hmem
      · exact hfixed "*mut " (by simp) c hc hspace hmem
      · exact ih h hmem
    | false =>
      rcases List.mem_append.1 hmem with hmem | hmem
      · exact hfixed "*const " (by simp) c hc hspace hmem
      · exact ih h hmem
  | handle name => exact h.2.not_mem hc

theorem text_unit : SignatureType.unit.text = ['(', ')'] := rfl

theorem text_ne_nil {t : SignatureType} (h : t.IsClean) : t.text ≠ [] := by
  intro hnil
  rcases h with rfl | h
  · cases hnil
  · cases t with
    | unit => exact h
    | untyped => cases hnil
    | machineWord => cases hnil
    | scalar p => cases p <;> cases hnil
    | pointer isMut pointee => cases isMut <;> cases hnil
    | handle name => exact h.1 hnil

end SignatureType

/-! ## 4. Opaque types and the types mapped with them -/

/-- An opaque type whose names can stand in generated lines. -/
structure OpaqueType.IsClean (o : OpaqueType) : Prop where
  name : IsBare o.name
  handle : IsBare o.handle
  handle_ne_nil : o.handle ≠ []

theorem OpaqueTypes.exists_candidate_of_mem_assign {taken names : List Text} {o : OpaqueType}
    (h : o ∈ assign taken names) :
    o.name ∈ names ∧ ∃ copies, o.handle = candidate o.name copies := by
  induction names generalizing taken with
  | nil => cases h
  | cons name names ih =>
    rcases List.mem_cons.1 h with rfl | h
    · exact ⟨List.mem_cons_self, _, rfl⟩
    · obtain ⟨hname, hcopies⟩ := ih h
      exact ⟨List.mem_cons_of_mem _ hname, hcopies⟩

theorem OpaqueTypes.isClean_of_mem_ofNames {natives : List Text}
    (h : ∀ name ∈ natives, Header.IsName name) {o : OpaqueType}
    (ho : o ∈ (ofNames natives).entries) : o.IsClean := by
  obtain ⟨hmem, copies, hhandle⟩ := exists_candidate_of_mem_assign ho
  obtain ⟨hne, hword⟩ := h o.name (Names.mem_sorted.1 hmem)
  have hbare := isBare_of_isWord hword
  refine ⟨hbare, ?_, ?_⟩
  · rw [hhandle]
    exact hbare.candidate copies
  · rw [hhandle]
    exact candidate_ne_nil hne copies

theorem TypeMapping.isClean_ofKind {kind : BaseKind}
    (h : ∀ o, kind = .opaqueType o → o.IsClean) (depth : Nat) (isConst : Bool) :
    (ofKind kind depth isConst).IsClean := by
  cases kind with
  | void =>
    unfold ofKind
    simp only
    split
    · exact Or.inl rfl
    · split
      · exact Or.inr trivial
      · exact Or.inr trivial
  | scalar p =>
    have hscalar : (SignatureType.scalar p).IsValue := trivial
    exact Or.inr (hscalar.underPointers depth isConst)
  | char =>
    have hchar : (SignatureType.scalar .cChar).IsValue := trivial
    unfold ofKind
    simp only
    split
    · exact Or.inr (hchar.underPointers depth isConst)
    · exact Or.inr trivial
  | opaqueType o =>
    have ho := h o rfl
    unfold ofKind
    simp only
    split
    · exact Or.inr ⟨ho.handle_ne_nil, ho.handle⟩
    · split
      · exact Or.inr ⟨ho.handle_ne_nil, ho.handle⟩
      · exact Or.inr trivial
  | unknown => exact Or.inr trivial

theorem TypeMapping.isClean_map {opaques : OpaqueTypes} (h : ∀ o ∈ opaques.entries, o.IsClean)
    (c : CType) : (map opaques c).IsClean :=
  isClean_ofKind (fun o ho => h o (baseKind_eq_opaqueType ho)) c.depth c.isConst

theorem Declarator.isClean_param {opaques : OpaqueTypes}
    (h : ∀ o ∈ opaques.entries, o.IsClean) (d : Declarator) : (d.param opaques).type.IsClean := by
  cases d with
  | callback name => exact Or.inr trivial
  | plain name type => exact TypeMapping.isClean_map h type

/-! ## 5. Extracted functions -/

/-- A function whose names and types can stand in generated lines. -/
structure Function.IsClean (f : Function) : Prop where
  symbol : IsBare f.symbol
  stem : IsBare f.stem
  returnType : f.returnType.IsClean
  paramNames : ∀ p ∈ f.params, IsArgumentName p.name
  paramTypes : ∀ p ∈ f.params, p.type.IsClean

/-- Declarations that generated files can be rendered from and read back. -/
structure Declarations.IsClean (d : Declarations) : Prop where
  opaqueTypes : ∀ o ∈ d.opaqueTypes.entries, o.IsClean
  functions : ∀ f ∈ d.functions, f.IsClean

theorem Header.Prototype.isClean_function {opaques : OpaqueTypes}
    (h : ∀ o ∈ opaques.entries, o.IsClean) {p : Prototype} (hname : IsName p.name)
    (hparams : ')' ∉ p.paramText) (stripped : Text) : (p.function opaques stripped).IsClean where
  symbol := isBare_of_isWord hname.2
  stem := by
    have hbare := isBare_of_isWord hname.2
    intro c hc
    exact hbare c (mem_of_mem_methodStem hc)
  returnType := TypeMapping.isClean_map h _
  paramNames := by
    intro q hq
    have htrim : ')' ∉ Text.trim p.paramText := fun hmem => hparams (mem_of_mem_trim hmem)
    exact ParameterList.isArgumentName_of_mem_params htrim hq
  paramTypes := by
    intro q hq
    obtain ⟨d, -, rfl⟩ := List.mem_map.1 hq
    exact d.isClean_param h

/-- Every extracted function is a matched prototype, typed against the opaque types. -/
theorem Conventions.exists_prototype_of_mem_functions {x : Conventions} {header : Text}
    {f : Function} (h : f ∈ (x.extract header).declarations.functions) :
    ∃ found ∈ Header.prototypes x.markers (Header.normalize header),
      f = found.prototype.function (x.extract header).declarations.opaqueTypes x.stripPrefix := by
  obtain ⟨claim, hclaim, hkept⟩ := List.mem_filterMap.1 h
  have hfunction : claim.function = f := by
    unfold StemClaim.kept? at hkept
    split at hkept
    · exact Option.some.inj hkept
    · cases hkept
  have hmem := List.mem_map_of_mem (f := (·.function)) hclaim
  have hclaims : (x.findings (Header.normalize header)).claims.map (·.function) = _ :=
    map_function_claimStems [] _
  rw [hclaims] at hmem
  obtain ⟨p, hp, hpf⟩ := List.mem_map.1 hmem
  obtain ⟨found, hfound, rfl⟩ := List.mem_map.1 hp
  exact ⟨found, hfound, hfunction ▸ hpf.symm⟩

/-- **Extracted declarations are clean,** whatever the header and the conventions are. -/
theorem Conventions.isClean_extract (x : Conventions) (header : Text) :
    (x.extract header).declarations.IsClean := by
  have hopaques : ∀ o ∈ (x.extract header).declarations.opaqueTypes.entries, o.IsClean := by
    intro o ho
    refine OpaqueTypes.isClean_of_mem_ofNames ?_ ho
    intro name hname
    obtain ⟨d, hd, rfl⟩ := List.mem_map.1 hname
    exact Header.isName_of_mem_typedefsFrom (List.mem_of_mem_filter hd)
  refine ⟨hopaques, ?_⟩
  intro f hf
  obtain ⟨found, hfound, rfl⟩ := exists_prototype_of_mem_functions hf
  obtain ⟨hname, hparams⟩ := Header.isName_of_mem_matchesFrom hfound
  exact Header.Prototype.isClean_function hopaques hname hparams x.stripPrefix

end HeaderBindings
