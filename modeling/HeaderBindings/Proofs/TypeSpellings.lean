import HeaderBindings.Proofs.HandleNames
import HeaderBindings.Proofs.Artifact.Extracted

/-!
# Types told apart by their spelling

A type of the generated code is written as its pointers, outermost first, and then the name of
what they point to.  The text can be read back (`SignatureType.ofText_text`) as long as no
handle is called like something else, and so two such types with one text are one type, but
that a machine word is written like the scalar `usize`.

Aliases are kept apart from the other items of generated files, `c_char` and `c_void` among
them.  They are not kept apart from the scalars that need no import: an opaque type called
`i32` keeps its name.  `isUnambiguous_ofNames_iff` says that nothing else can go wrong.  Types
of extracted signatures are told apart by their spelling if and only if no opaque type is
called like a scalar; `bool` does no harm there, since a base called `bool` is the scalar.
-/

namespace HeaderBindings

open Identifier

/-! ## 1. Reading types -/

def Scalar.all : List Scalar :=
  [.bool, .i32, .i64, .u8, .u16, .u32, .u64, .usize, .f32, .f64, .cChar]

theorem Scalar.mem_all (p : Scalar) : p ∈ all := by
  cases p <;> decide

namespace SignatureType

/-- The type that is meant by the text of a type: a machine word is the scalar `usize`. -/
def meant : SignatureType → SignatureType
  | .machineWord => .scalar .usize
  | .pointer isMut pointee => .pointer isMut pointee.meant
  | other => other

/-- Read a name that no pointer stands in front of. -/
def coreOfText (t : Text) : SignatureType :=
  if t = ("()" : Text) then .unit
  else if t = ("c_void" : Text) then .untyped
  else match Scalar.all.find? (·.text = t) with
    | some p => .scalar p
    | none => .handle t

def ofText : Text → SignatureType
  | '*' :: 'm' :: 'u' :: 't' :: ' ' :: t => .pointer true (ofText t)
  | '*' :: 'c' :: 'o' :: 'n' :: 's' :: 't' :: ' ' :: t => .pointer false (ofText t)
  | t => coreOfText t

/-- A name of a handle that nothing else is called by. -/
structure IsOwnName (name : Text) : Prop where
  word : Header.IsName name
  ne_untyped : name ≠ ("c_void" : Text)
  ne_scalar : ∀ p : Scalar, name ≠ p.text

/-- The handle in the type, if there is one, has a name of its own. -/
def IsApart (t : SignatureType) : Prop := ∀ name, t.core = .handle name → IsOwnName name

theorem coreOfText_scalar (p : Scalar) : coreOfText p.text = .scalar p := by
  have hall : ∀ q ∈ Scalar.all, coreOfText q.text = .scalar q := by decide
  exact hall p p.mem_all

theorem coreOfText_handle {name : Text} (h : IsOwnName name) :
    coreOfText name = .handle name := by
  have hunit : name ≠ ("()" : Text) := by
    rintro rfl
    exact absurd (h.word.2 '(' List.mem_cons_self) (by decide)
  have hscalar : Scalar.all.find? (·.text = name) = none := by
    rw [List.find?_eq_none]
    intro p _ hp
    exact h.ne_scalar p (of_decide_eq_true hp).symm
  rw [coreOfText, if_neg hunit, if_neg h.ne_untyped, hscalar]

theorem ofText_of_head? {t : Text} (h : t.head? ≠ some '*') : ofText t = coreOfText t := by
  unfold ofText
  split
  · exact absurd rfl h
  · exact absurd rfl h
  · rfl

/-- **Types can be read back** from their texts. -/
theorem ofText_text {t : SignatureType} (h : t.IsApart) : ofText t.text = t.meant := by
  induction t with
  | unit => decide
  | untyped => decide
  | machineWord => decide
  | scalar p =>
    have hall : ∀ q ∈ Scalar.all, q.text.head? ≠ some '*' := by decide
    exact (ofText_of_head? (hall p p.mem_all)).trans (coreOfText_scalar p)
  | pointer isMut pointee ih =>
    cases isMut with
    | true => exact congrArg (pointer true) (ih h)
    | false => exact congrArg (pointer false) (ih h)
  | handle name =>
    have hname := h name rfl
    have hhead : name.head? ≠ some '*' := by
      intro hstar
      exact absurd (hname.word.2 '*' (List.mem_of_head? hstar)) (by decide)
    exact (ofText_of_head? hhead).trans (coreOfText_handle hname)

theorem meant_eq_of_text_eq {t u : SignatureType} (ht : t.IsApart) (hu : u.IsApart)
    (h : t.text = u.text) : t.meant = u.meant := by
  rw [← ofText_text ht, h, ofText_text hu]

end SignatureType

/-! ## 2. Aliases that keep the native name -/

namespace OpaqueTypes

theorem eq_of_candidate_eq {name w : Text} {copies : Nat} (h : candidate name copies = w)
    (hw : ¬ "Handle".toList <:+ w) : name = w := by
  cases copies with
  | zero => rw [← h, candidate_zero]
  | succ copies => exact absurd (h ▸ isSuffix_candidate_succ name copies) hw

theorem isSuffix_markerName (w : Text) : "Kind".toList <:+ OpaqueType.markerName w :=
  List.suffix_append _ _

theorem not_handle_isSuffix_markerName (w : Text) :
    ¬ "Handle".toList <:+ OpaqueType.markerName w := by
  rintro ⟨u, hu⟩
  have hlast := congrArg List.getLast? hu
  simp [OpaqueType.markerName] at hlast

theorem not_lt_of_isPrefix {v w : Text} (h : v <+: w) : ¬ w < v := by
  obtain ⟨u, rfl⟩ := h
  exact List.not_lt.2 List.le_append_left

section
variable {natives : List Text} (hdigits : ∀ name ∈ natives, startsWithDigit name = false)
  {o : OpaqueType} (ho : o ∈ (ofNames natives).entries)
include hdigits ho

theorem handle_notMem_reservedItems : o.handle ∉ reservedItems := by
  intro hmem
  have hdisjoint := (List.nodup_append.1 (nodup_reservedItems_append_chosen hdigits)).2.2
  have hchosen := (handles_sublist_chosen _).subset (List.mem_map_of_mem ho)
  exact hdisjoint _ hmem _ hchosen rfl

/-- An alias without a copy of `Handle` is the native name. -/
theorem name_eq_of_handle_eq {w : Text} (h : o.handle = w) (hw : ¬ "Handle".toList <:+ w) :
    o.name = w := by
  obtain ⟨copies, hhandle, -, -⟩ := isFirstFree_of_mem_ofNames hdigits ho
  exact eq_of_candidate_eq (hhandle.symm.trans h) hw

/-- **A name that can clash with nothing is kept.** -/
theorem handle_eq_name (hreserved : o.name ∉ reservedItems) (hplain : IsPlain o.name)
    (hhandle : ¬ "Handle".toList <:+ o.name) (hkind : ¬ "Kind".toList <:+ o.name) :
    o.handle = o.name := by
  -- what smaller native names have taken is neither the name nor its marker
  have hsmaller : ∀ e ∈ (ofNames natives).entries, e.name < o.name → ∀ w,
      o.name <+: w → ¬ "Handle".toList <:+ w → e.handle ≠ w := by
    intro e he hlt w hw hsuffix heq
    rw [name_eq_of_handle_eq hdigits he heq hsuffix] at hlt
    exact not_lt_of_isPrefix hw hlt
  have hfree : IsFree ((ofNames natives).takenBefore o.name) o.name := by
    refine ⟨?_, ?_, hplain⟩
    · intro hmem
      rcases List.mem_append.1 hmem with hmem | hmem
      · exact hreserved hmem
      · obtain ⟨e, he, hmem⟩ := List.mem_flatMap.1 hmem
        obtain ⟨he, hlt⟩ := List.mem_filter.1 he
        rcases List.mem_pair.1 hmem with heq | heq
        · exact hsmaller e he (of_decide_eq_true hlt) _ (List.prefix_refl _) hhandle heq.symm
        · exact hkind (heq ▸ isSuffix_markerName e.handle)
    · intro hmem
      rcases List.mem_append.1 hmem with hmem | hmem
      · have hall : ∀ w ∈ reservedItems, ¬ "Kind".toList <:+ w := by decide
        exact hall _ hmem (isSuffix_markerName o.name)
      · obtain ⟨e, he, hmem⟩ := List.mem_flatMap.1 hmem
        obtain ⟨he, hlt⟩ := List.mem_filter.1 he
        rcases List.mem_pair.1 hmem with heq | heq
        · exact hsmaller e he (of_decide_eq_true hlt) _ (List.prefix_append _ _)
            (not_handle_isSuffix_markerName _) heq.symm
        · exact hsmaller e he (of_decide_eq_true hlt) _ (List.prefix_refl _) hhandle
            (List.append_cancel_right heq).symm
  obtain ⟨copies, hcandidate, -, hleast⟩ := isFirstFree_of_mem_ofNames hdigits ho
  cases copies with
  | zero => rw [hcandidate, candidate_zero]
  | succ copies =>
    have hfirst := hleast 0 (Nat.succ_pos copies)
    rw [candidate_zero] at hfirst
    exact absurd hfree hfirst

end

/-! ## 3. Scalars and aliases -/

/-- What a scalar is called in a header; `char` is no scalar there. -/
theorem exists_ofCName?_eq_some {p : Scalar} (h : p ≠ .cChar) :
    ∃ base, Scalar.ofCName? base = some p := by
  cases p with
  | bool => exact ⟨"bool", by decide⟩
  | i32 => exact ⟨"int32_t", by decide⟩
  | i64 => exact ⟨"int64_t", by decide⟩
  | u8 => exact ⟨"uint8_t", by decide⟩
  | u16 => exact ⟨"uint16_t", by decide⟩
  | u32 => exact ⟨"uint32_t", by decide⟩
  | u64 => exact ⟨"uint64_t", by decide⟩
  | usize => exact ⟨"size_t", by decide⟩
  | f32 => exact ⟨"float", by decide⟩
  | f64 => exact ⟨"double", by decide⟩
  | cChar => exact absurd rfl h

/-- No scalar but `bool` is called the same in a header and in the generated code. -/
theorem isBuiltin_scalar {p : Scalar} (h : p ≠ .bool) : TypeMapping.isBuiltin p.text = false := by
  have hall : ∀ q ∈ Scalar.all, q ≠ .bool → TypeMapping.isBuiltin q.text = false := by decide
  exact hall p p.mem_all h

/-- What renaming could add to a name is at the end of no scalar, and but for `c_char` no
    scalar is a reserved name. -/
theorem scalar_is_ordinary : ∀ p ∈ Scalar.all,
    ¬ "Handle".toList <:+ p.text ∧ ¬ "Kind".toList <:+ p.text ∧ IsPlain p.text ∧
      (p.text ∈ reservedItems → p = .cChar) := by
  decide

section
variable {natives : List Text} (hwords : ∀ name ∈ natives, Header.IsName name)
  (hdigits : ∀ name ∈ natives, startsWithDigit name = false)
  {o : OpaqueType} (ho : o ∈ (ofNames natives).entries)
include hdigits ho

/-- An alias that is called like a scalar is a native name. -/
theorem mem_of_handle_eq_scalar {p : Scalar} (h : o.handle = p.text) :
    o.name = p.text ∧ p.text ∈ natives ∧ p ≠ .cChar := by
  have hname := name_eq_of_handle_eq hdigits ho h (scalar_is_ordinary p p.mem_all).1
  refine ⟨hname, ?_, ?_⟩
  · rw [← hname, ← mem_nativeNames_ofNames]
    exact List.mem_map_of_mem ho
  · rintro rfl
    have hreserved : Scalar.cChar.text ∈ reservedItems := by decide
    exact handle_notMem_reservedItems hdigits ho (h ▸ hreserved)

/-- A native name that is called like a scalar is kept. -/
theorem handle_eq_scalar {p : Scalar} (hp : p ≠ .cChar) (h : o.name = p.text) :
    o.handle = p.text := by
  obtain ⟨hhandle, hkind, hplain, hreserved⟩ := scalar_is_ordinary p p.mem_all
  rw [← h] at hhandle hkind hplain hreserved ⊢
  exact handle_eq_name hdigits ho (fun hmem => hp (hreserved hmem)) hplain hhandle hkind

omit hdigits in
include hwords in
theorem isName_handle : Header.IsName o.handle := by
  obtain ⟨hmem, copies, hhandle⟩ := exists_candidate_of_mem_assign ho
  obtain ⟨hne, hword⟩ := hwords o.name (Names.mem_sorted.1 hmem)
  rw [hhandle]
  refine ⟨candidate_ne_nil hne copies, ?_⟩
  intro c hc
  rcases List.mem_append.1 hc with hc | hc
  · exact hword c hc
  · obtain ⟨part, hpart, hc⟩ := List.mem_flatten.1 hc
    rw [(List.mem_replicate.1 hpart).2] at hc
    have hall : ∀ d ∈ "Handle".toList, isIdent d = true := by decide
    exact isWord_of_isIdent (hall c hc)

end

/-! ## 4. Unambiguous types -/

/-- Types of signatures with one text are one type, but for the two spelled `usize`. -/
def IsUnambiguous (s : OpaqueTypes) : Prop :=
  ∀ c d : CType, (TypeMapping.map s c).text = (TypeMapping.map s d).text →
    (TypeMapping.map s c).meant = (TypeMapping.map s d).meant

/-- No alias is spelled like a type that is no handle. -/
def HasOwnAliases (s : OpaqueTypes) : Prop :=
  ∀ o ∈ s.entries, ∀ t : SignatureType, (∀ name, t ≠ .handle name) → t.text ≠ o.handle

section
variable {natives : List Text} (hwords : ∀ name ∈ natives, Header.IsName name)
  (hdigits : ∀ name ∈ natives, startsWithDigit name = false)
include hwords hdigits

/-- A type that is mapped to a handle has a base that is not built in, so an opaque type
    called `bool` is never referred to. -/
theorem isApart_map (hnatives : ∀ p : Scalar, p.text ∈ natives → p = .bool ∨ p = .cChar)
    (c : CType) : (TypeMapping.map (ofNames natives) c).IsApart := by
  intro name hcore
  obtain ⟨o, hkind, rfl⟩ := TypeMapping.exists_opaqueType_of_core_map hcore
  obtain ⟨hbuiltin, hget⟩ := TypeMapping.baseKind_eq_opaqueType_iff.1 hkind
  obtain ⟨ho, hbase⟩ := get?_eq_some hget
  refine ⟨isName_handle hwords ho, ?_, ?_⟩
  · intro hvoid
    have hreserved : ("c_void" : Text) ∈ reservedItems := by decide
    exact handle_notMem_reservedItems hdigits ho (hvoid ▸ hreserved)
  · intro p hp
    obtain ⟨hname, hmem, hchar⟩ := mem_of_handle_eq_scalar hdigits ho hp
    rcases hnatives p hmem with rfl | rfl
    · rw [← hbase, hname] at hbuiltin
      exact absurd hbuiltin (by decide)
    · exact hchar rfl

theorem isUnambiguous_of_forall
    (hnatives : ∀ p : Scalar, p.text ∈ natives → p = .bool ∨ p = .cChar) :
    IsUnambiguous (ofNames natives) := fun c d h =>
  SignatureType.meant_eq_of_text_eq (isApart_map hwords hdigits hnatives c)
    (isApart_map hwords hdigits hnatives d) h

omit hwords in
/-- An opaque type that is called like a scalar is spelled like it. -/
theorem exists_entry_of_mem {p : Scalar} (hp : p ≠ .cChar) (hmem : p.text ∈ natives) :
    ∃ o, (ofNames natives).get? p.text = some o ∧ o ∈ (ofNames natives).entries ∧
      o.handle = p.text := by
  have hcontains : (ofNames natives).contains p.text = true :=
    contains_iff_mem_nativeNames.2 (mem_nativeNames_ofNames.2 hmem)
  obtain ⟨o, hget⟩ := Option.isSome_iff_exists.1 hcontains
  obtain ⟨ho, hname⟩ := get?_eq_some hget
  exact ⟨o, hget, ho, handle_eq_scalar hdigits ho hp hname⟩

omit hwords in
theorem eq_of_isUnambiguous (h : IsUnambiguous (ofNames natives)) (p : Scalar)
    (hmem : p.text ∈ natives) : p = .bool ∨ p = .cChar := by
  by_contra hne
  rw [not_or] at hne
  obtain ⟨o, hget, -, hhandle⟩ := exists_entry_of_mem hdigits hne.2 hmem
  obtain ⟨base, hbase⟩ := exists_ofCName?_eq_some hne.2
  have hhandle' : TypeMapping.map (ofNames natives) ⟨p.text, 0, false⟩ = .handle p.text := by
    have hkind := TypeMapping.baseKind_eq_opaqueType_iff.2 ⟨isBuiltin_scalar hne.1, hget⟩
    rw [TypeMapping.map, hkind, ← hhandle]
    rfl
  have hscalar : TypeMapping.map (ofNames natives) ⟨base, 0, false⟩ = .scalar p := by
    rw [TypeMapping.map, TypeMapping.baseKind_eq_scalar hbase]
    rfl
  have hmeant := h ⟨p.text, 0, false⟩ ⟨base, 0, false⟩ (by rw [hhandle', hscalar]; rfl)
  rw [hhandle', hscalar] at hmeant
  cases hmeant

theorem hasOwnAliases_of_forall (hnatives : ∀ p : Scalar, p.text ∈ natives → p = .cChar) :
    HasOwnAliases (ofNames natives) := by
  intro o ho t hhandle htext
  have hscalar : ∀ p : Scalar, o.handle ≠ p.text := by
    intro p hp
    obtain ⟨-, hmem, hchar⟩ := mem_of_handle_eq_scalar hdigits ho hp
    exact hchar (hnatives p hmem)
  have hword := isName_handle hwords ho
  cases t with
  | unit => exact absurd (hword.2 '(' (htext ▸ List.mem_cons_self)) (by decide)
  | untyped =>
    have hreserved : SignatureType.untyped.text ∈ reservedItems := by decide
    exact handle_notMem_reservedItems hdigits ho (htext ▸ hreserved)
  | machineWord => exact hscalar .usize htext.symm
  | scalar p => exact hscalar p htext.symm
  | pointer isMut pointee =>
    cases isMut <;> exact absurd (hword.2 '*' (htext ▸ List.mem_cons_self)) (by decide)
  | handle name => exact hhandle name rfl

omit hwords in
theorem eq_of_hasOwnAliases (h : HasOwnAliases (ofNames natives)) (p : Scalar)
    (hmem : p.text ∈ natives) : p = .cChar := by
  by_contra hne
  obtain ⟨o, -, ho, hhandle⟩ := exists_entry_of_mem hdigits hne hmem
  exact h o ho (.scalar p) (by simp) hhandle.symm

/-- **When spelling tells types apart.**  For every set of native names, the types of
    signatures with one text are one type, but for the two spelled `usize`, if and only if no
    native name is a scalar other than `bool` and `c_char`; and no alias is spelled like a
    type that is no handle, if and only if no native name is a scalar other than `c_char`. -/
theorem isUnambiguous_ofNames_iff :
    (IsUnambiguous (ofNames natives) ↔
        ∀ p : Scalar, p.text ∈ natives → p = .bool ∨ p = .cChar) ∧
      (HasOwnAliases (ofNames natives) ↔ ∀ p : Scalar, p.text ∈ natives → p = .cChar) :=
  ⟨⟨eq_of_isUnambiguous hdigits, isUnambiguous_of_forall hwords hdigits⟩,
    ⟨eq_of_hasOwnAliases hdigits, hasOwnAliases_of_forall hwords hdigits⟩⟩

end

/-- An opaque type that is called like a scalar of a header, one that is called like the
    scalar `bool`, which both have, and a reserved name. -/
theorem isUnambiguous_ofNames_iff_of_bool :
    (IsUnambiguous (ofNames [("bool" : Text), "int", "c_char"]) ↔
        ∀ p : Scalar, p.text ∈ [("bool" : Text), "int", "c_char"] → p = .bool ∨ p = .cChar) ∧
      (HasOwnAliases (ofNames [("bool" : Text), "int", "c_char"]) ↔
        ∀ p : Scalar, p.text ∈ [("bool" : Text), "int", "c_char"] → p = .cChar) :=
  isUnambiguous_ofNames_iff (by decide +kernel) (by decide)

/-- Aliases are not kept apart from the scalars. -/
theorem not_forall_isUnambiguous :
    ¬ ∀ natives : List Text, (∀ name ∈ natives, Header.IsName name) →
      (∀ name ∈ natives, startsWithDigit name = false) →
      ∀ c d : CType,
        (TypeMapping.map (ofNames natives) c).text = (TypeMapping.map (ofNames natives) d).text →
        (TypeMapping.map (ofNames natives) c).meant =
          (TypeMapping.map (ofNames natives) d).meant := by
  intro h
  have hmeant := h ["i32"] (by decide +kernel) (by decide) ⟨"i32", 1, false⟩ ⟨"int", 0, false⟩
    (by decide)
  revert hmeant
  decide

end OpaqueTypes

end HeaderBindings
