import HeaderBindings.Proofs.OpaqueTypes
import HeaderBindings.TypeMapping

/-!
# Which types become handles

The rules of `TypeMapping.map` are told apart by the kind of the base.  Two facts are what
other modules need of them: when a base is an opaque type (`baseKind_eq_opaqueType_iff`), and
that under all of its pointers a mapped type is a handle for such a base only
(`exists_opaqueType_of_core_map`).
-/

namespace HeaderBindings

theorem SignatureType.core_underPointers (t : SignatureType) (depth : Nat) (isConst : Bool) :
    (t.underPointers depth isConst).core = t.core := by
  induction depth with
  | zero => rfl
  | succ depth ih =>
    cases depth with
    | zero => rfl
    | succ depth => exact ih

theorem SignatureType.core_ne_pointer (t : SignatureType) {isMut : Bool}
    {pointee : SignatureType} : t.core ≠ .pointer isMut pointee := by
  induction t with
  | pointer _ _ ih => exact ih
  | _ => nofun

namespace TypeMapping

variable {opaques : OpaqueTypes}

/-- A built-in name is never an opaque type. -/
theorem baseKind_eq_opaqueType_iff {base : Text} {o : OpaqueType} :
    baseKind opaques base = .opaqueType o ↔
      isBuiltin base = false ∧ opaques.get? base = some o := by
  unfold baseKind isBuiltin
  by_cases hvoid : base = ("void" : Text)
  · simp only [hvoid, decide_true, Bool.or_true, Bool.true_or]
    simp
  · cases hscalar : Scalar.ofCName? base with
    | some p =>
      simp only [if_neg hvoid, Option.isSome_some, Bool.or_true]
      simp
    | none =>
      by_cases hchar : base = ("char" : Text)
      · simp only [if_neg hvoid, if_pos hchar, decide_eq_true hchar, Bool.true_or]
        simp
      · cases hget : opaques.get? base with
        | none =>
          simp only [if_neg hvoid, if_neg hchar]
          simp
        | some e =>
          simp only [if_neg hvoid, if_neg hchar, decide_eq_false hvoid, decide_eq_false hchar]
          simp

theorem baseKind_eq_opaqueType {base : Text} {o : OpaqueType}
    (h : baseKind opaques base = .opaqueType o) : o ∈ opaques.entries :=
  (OpaqueTypes.get?_eq_some (baseKind_eq_opaqueType_iff.1 h).2).1

theorem baseKind_eq_scalar {base : Text} {p : Scalar} (h : Scalar.ofCName? base = some p) :
    baseKind opaques base = .scalar p := by
  have hvoid : base ≠ ("void" : Text) := by
    rintro rfl
    have hnone : Scalar.ofCName? "void" = none := by decide
    rw [hnone] at h
    cases h
  rw [baseKind, if_neg hvoid, h]

/-- A base has no rule exactly if it names no type. -/
theorem isUnrecognized_eq (opaques : OpaqueTypes) (c : CType) :
    isUnrecognized opaques c = !namesType opaques c.base := by
  unfold isUnrecognized baseKind namesType isBuiltin OpaqueTypes.contains
  by_cases hvoid : c.base = ("void" : Text)
  · rw [if_pos hvoid, decide_eq_true hvoid, Bool.or_true, Bool.true_or, Bool.true_or]
    rfl
  · rw [if_neg hvoid, decide_eq_false hvoid]
    cases Scalar.ofCName? c.base with
    | some p =>
      rw [Option.isSome_some, Bool.or_true, Bool.true_or]
      rfl
    | none =>
      by_cases hchar : c.base = ("char" : Text)
      · simp only [if_pos hchar, decide_eq_true hchar, Bool.true_or]
        rfl
      · simp only [if_neg hchar, decide_eq_false hchar]
        cases opaques.get? c.base <;> rfl

/-- Under its pointers a mapped type is a handle for an opaque base only. -/
theorem exists_opaqueType_of_core_map {c : CType} {name : Text}
    (h : (map opaques c).core = .handle name) :
    ∃ o, baseKind opaques c.base = .opaqueType o ∧ o.handle = name := by
  unfold map at h
  cases hkind : baseKind opaques c.base with
  | void =>
    rw [hkind, ofKind] at h
    split at h
    · cases h
    · split at h <;> cases h
  | scalar p =>
    rw [hkind, ofKind, SignatureType.core_underPointers] at h
    cases h
  | char =>
    rw [hkind, ofKind] at h
    split at h
    · rw [SignatureType.core_underPointers] at h
      cases h
    · cases h
  | opaqueType o =>
    refine ⟨o, rfl, ?_⟩
    rw [hkind, ofKind] at h
    split at h
    · exact SignatureType.handle.inj h
    · split at h
      · exact SignatureType.handle.inj h
      · cases h
  | unknown =>
    rw [hkind] at h
    cases h

end TypeMapping

end HeaderBindings
