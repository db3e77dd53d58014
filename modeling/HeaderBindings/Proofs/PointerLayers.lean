import HeaderBindings.Proofs.TypeMapping

/-!
# The pointers of mapped types

A type of a signature is a core that is no pointer, under its layers of pointers
(`SignatureType.layers`), and it is written layer by layer, the outermost one first
(`SignatureType.text_eq`).

The rules of the mapping cap, shift or drop the pointers of a C type, each in its own way.  They
have one shape nevertheless: the kind of the base and the depth decide on a core, on a number of
layers, and on whether the qualifier is kept (`TypeMapping.ofKind_eq`).  Everything about the
pointers of a mapped type is read off this shape (`TypeMapping.followsPointerRules_map`).
-/

namespace HeaderBindings

/-! ## 1. Layers -/

namespace SignatureType

/-- The pointers around the core of a type, the outermost one first: is each of them mutable? -/
def layers : SignatureType → List Bool
  | .pointer isMut pointee => isMut :: pointee.layers
  | _ => []

def layerText (isMut : Bool) : Text := if isMut then "*mut " else "*const "

theorem core_eq_self {t : SignatureType} (ht : t.layers = []) : t.core = t := by
  cases t with
  | pointer isMut pointee => cases ht
  | _ => rfl

/-- **The text of a type** is that of its layers and then that of its core. -/
theorem text_eq (t : SignatureType) : t.text = t.layers.flatMap layerText ++ t.core.text := by
  induction t with
  | pointer isMut pointee ih =>
    have htext : (pointer isMut pointee).text = layerText isMut ++ pointee.text := by
      cases isMut <;> rfl
    rw [htext, ih, layers, List.flatMap_cons, List.append_assoc]
    rfl
  | _ => rfl

theorem layers_underPointers_succ (t : SignatureType) (depth : Nat) (isConst : Bool) :
    (t.underPointers (depth + 1) isConst).layers =
      List.replicate depth true ++ (!isConst) :: t.layers := by
  induction depth with
  | zero => rfl
  | succ depth ih =>
    rw [underPointers, layers, ih]
    rfl

variable {t : SignatureType} (ht : t.layers = [])
include ht

theorem length_layers_underPointers (depth : Nat) (isConst : Bool) :
    (t.underPointers depth isConst).layers.length = depth := by
  cases depth with
  | zero => rw [underPointers, ht, List.length_nil]
  | succ depth => simp [layers_underPointers_succ, ht]

theorem dropLast_layers_underPointers (depth : Nat) (isConst : Bool) :
    ∀ isMut ∈ (t.underPointers depth isConst).layers.dropLast, isMut = true := by
  cases depth with
  | zero => simp [underPointers, ht]
  | succ depth =>
    rw [layers_underPointers_succ, ht, List.dropLast_concat]
    exact fun isMut hmem => (List.mem_replicate.1 hmem).2

theorem getLast?_layers_underPointers (depth : Nat) (isConst : Bool) :
    ∀ isMut ∈ (t.underPointers depth isConst).layers.getLast?, isMut = !isConst := by
  cases depth with
  | zero => simp [underPointers, ht]
  | succ depth => simp [layers_underPointers_succ, ht, eq_comm]

end SignatureType

namespace TypeMapping

/-! ## 2. The shape of the rules -/

namespace BaseKind

/-- What a base of the kind stands for at the given depth, under all pointers. -/
def core (depth : Nat) : BaseKind → SignatureType
  | .void => if depth = 0 then .unit else .untyped
  | .scalar p => .scalar p
  | .char => if depth ≤ 2 then .scalar .cChar else .machineWord
  | .opaqueType o => if depth ≤ 2 then .handle o.handle else .machineWord
  | .unknown => .machineWord

/-- How many pointers are around it. -/
def layerCount (depth : Nat) : BaseKind → Nat
  | .void => min depth 2
  | .scalar _ => depth
  | .char => if depth ≤ 2 then depth else 0
  | .opaqueType _ => if depth ≤ 2 then depth - 1 else 0
  | .unknown => 0

/-- A pointer to a handle is mutable whatever the C type says. -/
def keepsConst : BaseKind → Bool
  | .opaqueType _ => false
  | .void | .scalar _ | .char | .unknown => true

theorem layers_core (kind : BaseKind) (depth : Nat) : (kind.core depth).layers = [] := by
  cases kind with
  | void =>
    rw [core]
    split <;> rfl
  | scalar p => rfl
  | char =>
    rw [core]
    split <;> rfl
  | opaqueType o =>
    rw [core]
    split <;> rfl
  | unknown => rfl

/-- No value and a machine word stand under no pointer, and what an untyped pointer points to
    does not stand alone. -/
theorem layerCount_of_core (kind : BaseKind) (depth : Nat) :
    match kind.core depth with
    | .unit | .machineWord => kind.layerCount depth = 0
    | .untyped => 0 < kind.layerCount depth
    | _ => True := by
  cases kind with
  | void =>
    by_cases hdepth : depth = 0
    · rw [core, if_pos hdepth, layerCount, hdepth]
      rfl
    · rw [core, if_neg hdepth, layerCount]
      exact Nat.lt_min.2 ⟨Nat.pos_of_ne_zero hdepth, Nat.zero_lt_two⟩
  | scalar p => trivial
  | char =>
    by_cases hdepth : depth ≤ 2
    · rw [core, if_pos hdepth]
      trivial
    · rw [core, if_neg hdepth]
      exact if_neg hdepth
  | opaqueType o =>
    by_cases hdepth : depth ≤ 2
    · rw [core, if_pos hdepth]
      trivial
    · rw [core, if_neg hdepth]
      exact if_neg hdepth
  | unknown => rfl

end BaseKind

/-- **The shape of the rules**: a core under a number of pointers. -/
theorem ofKind_eq (kind : BaseKind) (depth : Nat) (isConst : Bool) :
    ofKind kind depth isConst =
      (kind.core depth).underPointers (kind.layerCount depth) (isConst && kind.keepsConst) := by
  cases kind with
  | void =>
    rw [BaseKind.keepsConst, Bool.and_true]
    rcases depth with _ | _ | depth
    · rfl
    · rfl
    · have hcap : min (depth + 2) 2 = 2 := by omega
      rw [BaseKind.layerCount, hcap]
      rfl
  | scalar p =>
    rw [BaseKind.keepsConst, Bool.and_true]
    rfl
  | char =>
    rw [BaseKind.keepsConst, Bool.and_true]
    simp only [ofKind, BaseKind.core, BaseKind.layerCount]
    split <;> rfl
  | opaqueType o =>
    rw [BaseKind.keepsConst, Bool.and_false]
    rcases depth with _ | _ | _ | depth
    all_goals rfl
  | unknown => rfl

variable {opaques : OpaqueTypes} {c : CType}

theorem map_eq (opaques : OpaqueTypes) (c : CType) :
    map opaques c = ((baseKind opaques c.base).core c.depth).underPointers
      ((baseKind opaques c.base).layerCount c.depth)
      (c.isConst && (baseKind opaques c.base).keepsConst) :=
  ofKind_eq _ _ _

theorem length_layers_map (opaques : OpaqueTypes) (c : CType) :
    (map opaques c).layers.length = (baseKind opaques c.base).layerCount c.depth := by
  rw [map_eq, SignatureType.length_layers_underPointers (BaseKind.layers_core _ _)]

theorem core_map (opaques : OpaqueTypes) (c : CType) :
    (map opaques c).core = (baseKind opaques c.base).core c.depth := by
  rw [map_eq, SignatureType.core_underPointers,
    SignatureType.core_eq_self (BaseKind.layers_core _ _)]

/-- A type with no value or a machine word under its pointers has no pointers. -/
theorem map_eq_of_core {t : SignatureType} (ht : t = .unit ∨ t = .machineWord)
    (h : (map opaques c).core = t) : map opaques c = t := by
  have hcount := BaseKind.layerCount_of_core (baseKind opaques c.base) c.depth
  rw [core_map] at h
  have hzero : (baseKind opaques c.base).layerCount c.depth = 0 := by
    rw [h] at hcount
    rcases ht with rfl | rfl
    · exact hcount
    · exact hcount
  rw [map_eq, hzero, SignatureType.underPointers, h]

/-! ## 3. The rules by the name of the base -/

/-- The name of an opaque type that a base can refer to: it is not built in. -/
def IsHandleBase (opaques : OpaqueTypes) (base : Text) : Prop :=
  isBuiltin base = false ∧ opaques.contains base = true

theorem isHandleBase_iff {base : Text} :
    IsHandleBase opaques base ↔ ∃ o, baseKind opaques base = .opaqueType o := by
  simp only [IsHandleBase, OpaqueTypes.contains, Option.isSome_iff_exists,
    baseKind_eq_opaqueType_iff, exists_and_left]

theorem keepsConst_eq_false_iff {base : Text} :
    (baseKind opaques base).keepsConst = false ↔ IsHandleBase opaques base := by
  rw [isHandleBase_iff]
  cases baseKind opaques base <;> simp [BaseKind.keepsConst]

/-- What the kind of a base says of its name. -/
theorem baseKind_sound (opaques : OpaqueTypes) (base : Text) :
    match baseKind opaques base with
    | .void => base = ("void" : Text)
    | .scalar p => Scalar.ofCName? base = some p
    | .char => base = ("char" : Text)
    | .opaqueType _ => IsHandleBase opaques base
    | .unknown => True := by
  cases hkind : baseKind opaques base with
  | opaqueType o => exact isHandleBase_iff.2 ⟨o, hkind⟩
  | unknown => trivial
  | _ =>
    unfold baseKind at hkind
    repeat' split at hkind
    all_goals cases hkind
    all_goals assumption

/-- What the rules of the mapping say of the pointers of a type that a C type is mapped to. -/
structure FollowsPointerRules (opaques : OpaqueTypes) (c : CType) (t : SignatureType) : Prop where
  void : c.base = ("void" : Text) → t.layers.length = min c.depth 2
  scalar : (Scalar.ofCName? c.base).isSome = true → t.layers.length = c.depth
  char : c.base = ("char" : Text) → c.depth ≤ 2 → t.layers.length = c.depth
  /-- One pointer to an opaque type is the handle itself. -/
  handle : IsHandleBase opaques c.base → c.depth ≤ 2 → t.layers.length = c.depth - 1
  otherwise : c.base ≠ ("void" : Text) → Scalar.ofCName? c.base = none →
    (c.base = ("char" : Text) → 2 < c.depth) → (IsHandleBase opaques c.base → 2 < c.depth) →
      t = .machineWord
  /-- No value and a machine word are whole types, and what an untyped pointer points to is
      none. -/
  unit : t.core = .unit → t = .unit
  untyped : t.core = .untyped → t ≠ .untyped
  machineWord : t.core = .machineWord → t = .machineWord
  /-- All layers but the innermost one are mutable. -/
  outer : ∀ isMut ∈ t.layers.dropLast, isMut = true
  innermost : ∀ isMut ∈ t.layers.getLast?,
    (isMut = false ↔ c.isConst = true ∧ ¬ IsHandleBase opaques c.base)
  text : t.text = t.layers.flatMap SignatureType.layerText ++ t.core.text

theorem map_eq_machineWord (hvoid : c.base ≠ ("void" : Text))
    (hscalar : Scalar.ofCName? c.base = none) (hchar : c.base = ("char" : Text) → 2 < c.depth)
    (hhandle : IsHandleBase opaques c.base → 2 < c.depth) :
    map opaques c = .machineWord := by
  have hsound := baseKind_sound opaques c.base
  have hcore : (baseKind opaques c.base).core c.depth = .machineWord := by
    cases hkind : baseKind opaques c.base with
    | void =>
      rw [hkind] at hsound
      exact absurd hsound hvoid
    | scalar p =>
      rw [hkind, hscalar] at hsound
      cases hsound
    | char =>
      rw [hkind] at hsound
      exact if_neg (Nat.not_le.2 (hchar hsound))
    | opaqueType o =>
      rw [hkind] at hsound
      exact if_neg (Nat.not_le.2 (hhandle hsound))
    | unknown => rfl
  exact map_eq_of_core (Or.inr rfl) (by rw [core_map, hcore])

/-- **Pointers are mapped by the rules**, for every C type of any depth. -/
theorem followsPointerRules_map (opaques : OpaqueTypes) (c : CType) :
    FollowsPointerRules opaques c (map opaques c) where
  void h := by
    rw [length_layers_map, h]
    rfl
  scalar h := by
    obtain ⟨p, hp⟩ := Option.isSome_iff_exists.1 h
    rw [length_layers_map, baseKind_eq_scalar hp]
    rfl
  char h hdepth := by
    rw [length_layers_map, h]
    exact if_pos hdepth
  handle h hdepth := by
    obtain ⟨o, ho⟩ := isHandleBase_iff.1 h
    rw [length_layers_map, ho]
    exact if_pos hdepth
  otherwise := map_eq_machineWord
  unit := map_eq_of_core (Or.inl rfl)
  untyped h hwhole := by
    have hcount := BaseKind.layerCount_of_core (baseKind opaques c.base) c.depth
    rw [core_map] at h
    rw [h, ← length_layers_map, hwhole] at hcount
    exact absurd hcount (Nat.lt_irrefl 0)
  machineWord := map_eq_of_core (Or.inr rfl)
  outer := by
    rw [map_eq]
    exact SignatureType.dropLast_layers_underPointers (BaseKind.layers_core _ _) _ _
  innermost isMut h := by
    rw [map_eq] at h
    have hlast := SignatureType.getLast?_layers_underPointers (BaseKind.layers_core _ _) _ _ _ h
    rw [hlast, ← keepsConst_eq_false_iff]
    simp
  text := SignatureType.text_eq _

/-- A deep constant scalar, and a constant pointer to a pointer to an opaque type. -/
example : (map .empty ⟨"int32_t", 3, true⟩).text = ("*mut *mut *const i32" : Text) ∧
    (map ⟨[⟨"T", "T"⟩]⟩ ⟨"T", 2, true⟩).text = ("*mut T" : Text) := by
  decide

end TypeMapping

end HeaderBindings
