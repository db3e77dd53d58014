import HeaderBindings.Declarations
import HeaderBindings.Proofs.HandleNames
import HeaderBindings.Proofs.Names
import HeaderBindings.Proofs.TypeMapping

/-!
# Types without a rule

A mapper maps one C type after another and keeps the base names that have no rule
(`TypeMapping.Mapper`).  However often and in which order types are mapped, it keeps the
increasing list of those of their bases that name no type (`Mapper.unmapped_run`).

The types of a header are mapped prototype by prototype, duplicates too, first what a
prototype returns and then its parameters in order; what an extraction lists is what the mapper
of the header's opaque types keeps of them (`Conventions.unmapped_eq_run`).  So the bases that
are listed are those of all matched prototypes that are neither built in nor opaque types of
the header (`unmapped_extract`).
-/

namespace HeaderBindings

namespace TypeMapping

/-! ## 1. The mapper -/

/-- Some opaque types, and the base names without a rule that were met so far. -/
structure Mapper where
  opaqueTypes : OpaqueTypes
  unmapped : List Text
  deriving DecidableEq, Repr

namespace Mapper

def start (opaques : OpaqueTypes) : Mapper := ⟨opaques, []⟩

/-- Map a type, and keep its base if there is no rule for it. -/
def map (m : Mapper) (c : CType) : SignatureType × Mapper :=
  (TypeMapping.map m.opaqueTypes c,
    if isUnrecognized m.opaqueTypes c then { m with unmapped := Names.insert c.base m.unmapped }
    else m)

/-- Map one type after another. -/
def run (m : Mapper) (cs : List CType) : Mapper := cs.foldl (fun m c => (m.map c).2) m

variable {m : Mapper}

theorem run_cons (c : CType) (cs : List CType) : m.run (c :: cs) = (m.map c).2.run cs := rfl

theorem opaqueTypes_map (c : CType) : (m.map c).2.opaqueTypes = m.opaqueTypes := by
  unfold map
  split <;> rfl

theorem mem_unmapped_map {c : CType} {base : Text} : base ∈ (m.map c).2.unmapped ↔
    (isUnrecognized m.opaqueTypes c = true ∧ c.base = base) ∨ base ∈ m.unmapped := by
  unfold map
  split
  · rename_i hc
    rw [Names.mem_insert, eq_comm]
    simp [hc]
  · rename_i hc
    simp [hc]

theorem pairwise_unmapped_map (h : m.unmapped.Pairwise (· < ·)) (c : CType) :
    (m.map c).2.unmapped.Pairwise (· < ·) := by
  unfold map
  split
  · exact Names.pairwise_insert h
  · exact h

theorem mem_unmapped_run {cs : List CType} {base : Text} : base ∈ (m.run cs).unmapped ↔
    (∃ c ∈ cs, isUnrecognized m.opaqueTypes c = true ∧ c.base = base) ∨ base ∈ m.unmapped := by
  induction cs generalizing m with
  | nil => simp [run]
  | cons c cs ih =>
    rw [run_cons, ih, opaqueTypes_map, mem_unmapped_map, List.exists_mem_cons_iff, or_assoc,
      or_left_comm]

theorem pairwise_unmapped_run (h : m.unmapped.Pairwise (· < ·)) (cs : List CType) :
    (m.run cs).unmapped.Pairwise (· < ·) := by
  induction cs generalizing m with
  | nil => exact h
  | cons c cs ih => exact ih (pairwise_unmapped_map h c)

/-- **What a mapper keeps** are the sorted base names without a rule. -/
theorem unmapped_run (opaques : OpaqueTypes) (cs : List CType) :
    ((start opaques).run cs).unmapped = TypeMapping.unmapped opaques cs := by
  apply Names.eq_of_mem_iff
  · exact pairwise_unmapped_run List.Pairwise.nil cs
  · exact Names.pairwise_sorted _
  · intro base
    rw [mem_unmapped_run, TypeMapping.unmapped, Names.mem_sorted, List.mem_map]
    simp [start, List.mem_filter, and_assoc]

end Mapper

variable {opaques : OpaqueTypes}

/-- What is listed depends on the set of the types that are mapped. -/
theorem unmapped_congr {cs ds : List CType} (h : ∀ c, c ∈ cs ↔ c ∈ ds) :
    unmapped opaques cs = unmapped opaques ds := by
  apply Names.sorted_congr
  intro base
  simp only [List.mem_map, List.mem_filter, h]

/-! ## 2. Bases without a rule -/

theorem namesType_eq_false_iff {base : Text} : namesType opaques base = false ↔
    base ≠ ("void" : Text) ∧ base ≠ ("char" : Text) ∧ Scalar.ofCName? base = none ∧
      base ∉ opaques.nativeNames := by
  rw [← OpaqueTypes.contains_iff_mem_nativeNames, namesType, isBuiltin]
  simp only [Bool.or_eq_false_iff, decide_eq_false_iff_not, Option.isSome_eq_false_iff,
    Option.isNone_iff_eq_none, Bool.not_eq_true]
  tauto

theorem mem_unmapped {cs : List CType} {base : Text} : base ∈ unmapped opaques cs ↔
    (∃ c ∈ cs, c.base = base) ∧ namesType opaques base = false := by
  rw [unmapped, Names.mem_sorted, List.mem_map]
  constructor
  · rintro ⟨c, hc, rfl⟩
    obtain ⟨hc, hrule⟩ := List.mem_filter.1 hc
    rw [isUnrecognized_eq, Bool.not_eq_true'] at hrule
    exact ⟨⟨c, hc, rfl⟩, hrule⟩
  · rintro ⟨⟨c, hc, rfl⟩, hrule⟩
    refine ⟨c, List.mem_filter.2 ⟨hc, ?_⟩, rfl⟩
    rw [isUnrecognized_eq, hrule]
    rfl

end TypeMapping

/-! ## 3. The types of a header -/

theorem ParameterList.mem_mappedTypes {opaques : OpaqueTypes} {list : Text} {type : CType} :
    type ∈ mappedTypes opaques list ↔ ∃ name, .plain name type ∈ declarators opaques list := by
  rw [mappedTypes, List.mem_filterMap]
  constructor
  · rintro ⟨d, hd, htype⟩
    cases d with
    | callback name => cases htype
    | plain name other =>
      obtain rfl := Option.some.inj htype
      exact ⟨name, hd⟩
  · rintro ⟨name, hd⟩
    exact ⟨_, hd, rfl⟩

/-- An extraction lists what a mapper that knows the opaque types of the header keeps after all
    types of its matched prototypes, in order. -/
theorem Conventions.unmapped_eq_run (x : Conventions) (header : Text) :
    let ps := (Header.prototypes x.markers (Header.normalize header)).map (·.prototype)
    let ds := (x.extract header).declarations
    ds.unmapped = ((TypeMapping.Mapper.start ds.opaqueTypes).run
      (ps.flatMap (·.mappedTypes ds.opaqueTypes))).unmapped := by
  intro ps ds
  exact (TypeMapping.Mapper.unmapped_run ds.opaqueTypes _).symm

/-- **What an extraction lists as unmapped.**  Its list is strictly increasing and has exactly
    those bases of the types of matched prototypes that are neither built in nor opaque types of
    the header; and what a mapper lists depends on the set of the mapped types only. -/
theorem unmapped_extract (x : Conventions) (header : Text) :
    let ps := (Header.prototypes x.markers (Header.normalize header)).map (·.prototype)
    let ds := (x.extract header).declarations
    ds.unmapped.Pairwise (· < ·) ∧
      (∀ base, base ∈ ds.unmapped ↔
        (∃ p ∈ ps, p.returnCType.base = base ∨ ∃ name type,
          .plain name type ∈ ParameterList.declarators ds.opaqueTypes (Text.trim p.paramText) ∧
            type.base = base) ∧
        base ≠ ("void" : Text) ∧ base ≠ ("char" : Text) ∧ Scalar.ofCName? base = none ∧
          base ∉ ds.opaqueTypes.nativeNames) ∧
      ∀ (opaques : OpaqueTypes) (cs others : List CType), (∀ c, c ∈ cs ↔ c ∈ others) →
        ((TypeMapping.Mapper.start opaques).run cs).unmapped =
          ((TypeMapping.Mapper.start opaques).run others).unmapped := by
  intro ps ds
  have hkept := x.unmapped_eq_run header
  refine ⟨?_, ?_, ?_⟩
  · rw [hkept]
    exact TypeMapping.Mapper.pairwise_unmapped_run List.Pairwise.nil _
  · intro base
    rw [hkept, TypeMapping.Mapper.unmapped_run, TypeMapping.mem_unmapped,
      TypeMapping.namesType_eq_false_iff]
    refine and_congr_left fun _ => ?_
    simp only [List.mem_flatMap, Header.Prototype.mappedTypes, List.mem_cons,
      ParameterList.mem_mappedTypes]
    constructor
    · rintro ⟨c, ⟨p, hp, rfl | ⟨name, hplain⟩⟩, hbase⟩
      · exact ⟨p, hp, Or.inl hbase⟩
      · exact ⟨p, hp, Or.inr ⟨name, c, hplain, hbase⟩⟩
    · rintro ⟨p, hp, hbase | ⟨name, type, hplain, hbase⟩⟩
      · exact ⟨p.returnCType, ⟨p, hp, Or.inl rfl⟩, hbase⟩
      · exact ⟨type, ⟨p, hp, Or.inr ⟨name, hplain⟩⟩, hbase⟩
  · intro opaques cs others h
    rw [TypeMapping.Mapper.unmapped_run, TypeMapping.Mapper.unmapped_run,
      TypeMapping.unmapped_congr h]

end HeaderBindings
