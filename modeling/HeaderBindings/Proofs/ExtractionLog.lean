import HeaderBindings.Proofs.Stems
import HeaderBindings.Proofs.TypeMapping

/-!
# The log of an extraction

An extraction renames handles, types what it does not know as an integer, drops prototypes whose
method stem is taken, and skips exported declarations that it cannot read.  Each of these is
counted or can be read off the result, and each is reported by a warning.  Here the two accounts
are reconciled (`isReconciled_extract`): the log has as many warnings as there is to warn of, and
every warning about a prototype lies in the span of that prototype and of no other.

The prototypes of a log are all that were matched, in their order, as the functions that they
would become.  A prototype is reported as a duplicate of the first one that has its stem
(`getElem_claimStems`).
-/

namespace HeaderBindings

def Event.isWarning (e : Event) : Bool := e.level = .warn

/-- Is the event a debug message outside of all spans? -/
def Event.isOuterDebug (e : Event) : Bool := e.level = .debug ∧ e.within = none

/-! ## 1. What there is to warn of -/

/-- The C types of a function: what it returns and what it takes. -/
def Function.cTypes (f : Function) : List CType := f.returnCType :: f.params.map (·.cType)

/-- The C types of a function, with repetition, whose base is neither built in nor an opaque
    type.  A callback is recorded as a pointer to `void`, so it is never one of them. -/
def Function.unknownTypes (opaques : OpaqueTypes) (f : Function) : List CType :=
  f.cTypes.filter fun c => !TypeMapping.namesType opaques c.base

/-- The functions that all matched prototypes of a header would become, duplicates too. -/
def Conventions.matchedFunctions (x : Conventions) (header : Text) : List Function :=
  (Header.prototypes x.markers (Header.normalize header)).map fun m =>
    m.prototype.function (x.extract header).declarations.opaqueTypes x.stripPrefix

/-- What is logged in the span of a function that some functions come before: a warning for each
    of its unknown types, and one if an earlier function has its stem. -/
structure IsSpan (opaques : OpaqueTypes) (earlier : List Function) (f : Function)
    (es : List Event) : Prop where
  within : ∀ e ∈ es, e.within = some f.symbol
  warnings : (es.filter Event.isWarning).map (·.notice) =
    (f.unknownTypes opaques).map .unrecognizedType ++
      ((earlier.find? (·.stem = f.stem)).map fun g =>
        Notice.duplicate f.symbol f.stem g.symbol).toList

/-- What is logged outside of all spans: a warning for each alias that differs from its native
    name, and the given number of warnings about declarations without a match. -/
structure IsOutside (opaques : OpaqueTypes) (unmatched : Nat) (es : List Event) : Prop where
  within : ∀ e ∈ es, e.within = none
  warnings : ∃ excerpts : List Text, excerpts.length = unmatched ∧
    (es.filter Event.isWarning).map (·.notice) =
      (opaques.entries.filter fun o => o.handle ≠ o.name).map
          (fun o => Notice.handleRenamed o.name o.handle) ++ excerpts.map .unmatched

/-- The log of an extraction agrees with its result, where the given functions were matched. -/
structure IsReconciled (fs : List Function) (r : Extraction) : Prop where
  warnings : r.events.countP Event.isWarning =
    r.declarations.opaqueTypes.entries.countP (fun o => o.handle ≠ o.name) +
      (fs.flatMap fun f => f.unknownTypes r.declarations.opaqueTypes).length +
      r.declarations.duplicates + r.declarations.unmatched
  debugs : r.events.countP Event.isOuterDebug = r.declarations.otherTypedefs
  /-- One span for each function, in order, between two parts outside of all spans. -/
  spans : ∃ (before after : List Event) (spans : List (List Event)),
    r.events = before ++ spans.flatten ++ after ∧
      IsOutside r.declarations.opaqueTypes r.declarations.unmatched (before ++ after) ∧
      spans.length = fs.length ∧
      ∀ i (hf : i < fs.length) (hs : i < spans.length),
        IsSpan r.declarations.opaqueTypes (fs.take i) fs[i] spans[i]

/-! ## 2. Types without a rule -/

/-- What a callback is recorded as has a rule, so the types of the parameters can be looked
    through instead of the types that are mapped. -/
theorem Declarator.filter_cType (opaques : OpaqueTypes) (ds : List Declarator) :
    (ds.filterMap mappedType?).filter (TypeMapping.isUnrecognized opaques) =
      ((ds.map (param opaques)).map (·.cType)).filter
        fun c => !TypeMapping.namesType opaques c.base := by
  induction ds with
  | nil => rfl
  | cons d ds ih =>
    cases d with
    | callback name =>
      have hnone : mappedType? (.callback name) = none := rfl
      have hvoid :
          TypeMapping.namesType opaques (param opaques (.callback name)).cType.base = true := rfl
      rw [List.filterMap_cons_none hnone, ih, List.map_cons, List.map_cons, List.filter_cons, hvoid]
      rfl
    | plain name type =>
      have hsome : mappedType? (.plain name type) = some type := rfl
      have htype : (param opaques (.plain name type)).cType = type := rfl
      rw [List.filterMap_cons_some hsome, List.map_cons, List.map_cons, htype, List.filter_cons,
        List.filter_cons, ih, TypeMapping.isUnrecognized_eq]

theorem Header.Prototype.complaints_eq (opaques : OpaqueTypes) (stripped : Text)
    (p : Prototype) :
    TypeMapping.complaints opaques (p.mappedTypes opaques) =
      ((p.function opaques stripped).unknownTypes opaques).map .unrecognizedType := by
  have hparams := Declarator.filter_cType opaques
    (ParameterList.declarators opaques (Text.trim p.paramText))
  unfold TypeMapping.complaints mappedTypes Function.unknownTypes Function.cTypes
  rw [ParameterList.mappedTypes, List.filter_cons, List.filter_cons, hparams,
    TypeMapping.isUnrecognized_eq]
  rfl

/-! ## 3. Spans -/

/-- What is logged in the span of a prototype. -/
def spanOf (opaques : OpaqueTypes) (p : Header.Prototype) (c : StemClaim) : List Event :=
  (c.notices opaques p).map (Event.inside p.name)

theorem warnings_spanOf (opaques : OpaqueTypes) (stripped : Text) (p : Header.Prototype)
    (c : StemClaim) :
    ((spanOf opaques p c).filter Event.isWarning).map (·.notice) =
      ((p.function opaques stripped).unknownTypes opaques).map .unrecognizedType ++
        (c.holder.map fun g => Notice.duplicate p.name c.function.stem g.symbol).toList := by
  have hnotices : ((spanOf opaques p c).filter Event.isWarning).map (·.notice) =
      (c.notices opaques p).filter (·.level = .warn) := by
    rw [spanOf, List.filter_map, List.map_map]
    exact List.map_id _
  have htypes : (((p.function opaques stripped).unknownTypes opaques).map
      Notice.unrecognizedType).filter (·.level = .warn) =
        ((p.function opaques stripped).unknownTypes opaques).map .unrecognizedType := by
    rw [List.filter_map]
    exact congrArg _ (List.filter_eq_self.2 fun _ _ => rfl)
  rw [hnotices, StemClaim.notices, p.complaints_eq opaques stripped, List.filter_append,
    List.filter_append, htypes]
  -- that the prototype was found is no warning
  cases c.holder with
  | none => exact congrArg (· ++ _) (List.append_nil _)
  | some g => exact congrArg (· ++ _) (List.append_nil _)

theorem isSpan_spanOf (opaques : OpaqueTypes) (stripped : Text) (p : Header.Prototype)
    (earlier : List Function) :
    let f := p.function opaques stripped
    IsSpan opaques earlier f (spanOf opaques p ⟨f, earlier.find? (·.stem = f.stem)⟩) := by
  intro f
  constructor
  · intro e he
    obtain ⟨n, -, rfl⟩ := List.mem_map.1 he
    rfl
  · exact warnings_spanOf opaques stripped p _

theorem countP_spanOf (opaques : OpaqueTypes) (stripped : Text) (p : Header.Prototype)
    (c : StemClaim) :
    (spanOf opaques p c).countP Event.isWarning =
      ((p.function opaques stripped).unknownTypes opaques).length + c.holder.isSome.toNat := by
  rw [List.countP_eq_length_filter, ← List.length_map (f := Event.notice),
    warnings_spanOf opaques stripped, List.length_append, List.length_map]
  cases c.holder <;> rfl

/-- The spans of prototypes, one for each claim. -/
def spansOf (opaques : OpaqueTypes) (ps : List Header.Prototype) (cs : List StemClaim) :
    List (List Event) :=
  (ps.zip cs).map fun e => spanOf opaques e.1 e.2

theorem countP_spansOf (opaques : OpaqueTypes) (stripped : Text) {ps : List Header.Prototype}
    {cs : List StemClaim} (h : cs.length = ps.length) :
    (spansOf opaques ps cs).flatten.countP Event.isWarning =
      ((ps.map (·.function opaques stripped)).flatMap (·.unknownTypes opaques)).length +
        cs.countP (·.holder.isSome) := by
  induction ps generalizing cs with
  | nil =>
    obtain rfl := List.length_eq_zero_iff.1 h
    rfl
  | cons p ps ih =>
    cases cs with
    | nil => cases h
    | cons c cs =>
      have hcons : spansOf opaques (p :: ps) (c :: cs) =
          spanOf opaques p c :: spansOf opaques ps cs := rfl
      rw [hcons, List.flatten_cons, List.countP_append, countP_spanOf opaques stripped,
        ih (Nat.succ.inj h), List.countP_cons, List.map_cons, List.flatMap_cons, List.length_append]
      cases c.holder.isSome <;> simp <;> omega

/-! ## 4. The whole log -/

namespace Findings

/-- What is logged before all spans. -/
def openingEvents (x : Findings) : List Event :=
  x.otherTypedefs.map (fun d => Event.outside (.notAHandle d.tag d.aliasName)) ++
    x.opaqueTypes.renamings

/-- What is logged behind all spans. -/
def closingEvents (x : Findings) : List Event :=
  x.unmatched.map fun o => Event.outside (.unmatched (Header.excerpt o.text))

theorem events_eq (x : Findings) :
    x.events = x.openingEvents ++ (spansOf x.opaqueTypes x.prototypes x.claims).flatten ++
      x.closingEvents := rfl

theorem filter_openingEvents (x : Findings) :
    x.openingEvents.filter Event.isWarning = x.opaqueTypes.renamings := by
  rw [openingEvents, List.filter_append, OpaqueTypes.renamings, List.filter_map, List.filter_map]
  have hnone : x.otherTypedefs.filter (Event.isWarning ∘ fun d =>
      Event.outside (.notAHandle d.tag d.aliasName)) = [] :=
    List.filter_eq_nil_iff.2 fun _ _ h => by cases h
  have hall : ∀ os : List OpaqueType, os.filter (Event.isWarning ∘ fun o =>
      Event.outside (.handleRenamed o.name o.handle)) = os :=
    fun os => List.filter_eq_self.2 fun _ _ => rfl
  rw [hnone, hall]
  rfl

theorem filter_closingEvents (x : Findings) :
    x.closingEvents.filter Event.isWarning = x.closingEvents := by
  rw [closingEvents, List.filter_map]
  exact congrArg _ (List.filter_eq_self.2 fun _ _ => rfl)

theorem isOutside (x : Findings) :
    IsOutside x.opaqueTypes x.unmatched.length (x.openingEvents ++ x.closingEvents) := by
  constructor
  · intro e he
    simp only [openingEvents, closingEvents, OpaqueTypes.renamings, List.mem_append,
      List.mem_map] at he
    obtain (⟨_, _, rfl⟩ | ⟨_, _, rfl⟩) | ⟨_, _, rfl⟩ := he <;> rfl
  · refine ⟨x.unmatched.map fun o => Header.excerpt o.text, List.length_map _, ?_⟩
    rw [List.filter_append, filter_openingEvents, filter_closingEvents, List.map_append,
      OpaqueTypes.renamings, closingEvents, List.map_map, List.map_map, List.map_map]
    rfl

theorem countP_warnings (x : Findings) (stripped : Text)
    (h : x.claims.length = x.prototypes.length) :
    x.events.countP Event.isWarning =
      x.opaqueTypes.entries.countP (fun o => o.handle ≠ o.name) +
        ((x.prototypes.map (·.function x.opaqueTypes stripped)).flatMap
          (·.unknownTypes x.opaqueTypes)).length +
        x.declarations.duplicates + x.declarations.unmatched := by
  have hopening : x.openingEvents.countP Event.isWarning =
      x.opaqueTypes.entries.countP fun o => o.handle ≠ o.name := by
    rw [List.countP_eq_length_filter, filter_openingEvents, OpaqueTypes.renamings,
      List.length_map, List.countP_eq_length_filter]
  have hclosing : x.closingEvents.countP Event.isWarning = x.unmatched.length := by
    rw [List.countP_eq_length_filter, filter_closingEvents, closingEvents, List.length_map]
  rw [events_eq, List.countP_append, List.countP_append, hopening, hclosing,
    countP_spansOf x.opaqueTypes stripped h]
  simp only [declarations]
  omega

theorem countP_outerDebugs (x : Findings) :
    x.events.countP Event.isOuterDebug = x.otherTypedefs.length := by
  have hopening : x.openingEvents.countP Event.isOuterDebug = x.otherTypedefs.length := by
    rw [openingEvents, List.countP_append, OpaqueTypes.renamings, List.countP_map, List.countP_map]
    have htypedefs : x.otherTypedefs.countP (Event.isOuterDebug ∘ fun d =>
        Event.outside (.notAHandle d.tag d.aliasName)) = x.otherTypedefs.length :=
      List.countP_eq_length.2 fun _ _ => rfl
    have hrenamings : ∀ os : List OpaqueType, os.countP (Event.isOuterDebug ∘ fun o =>
        Event.outside (.handleRenamed o.name o.handle)) = 0 :=
      fun os => List.countP_eq_zero.2 fun _ _ h => by cases h
    rw [htypedefs, hrenamings, Nat.add_zero]
  have hspans :
      (spansOf x.opaqueTypes x.prototypes x.claims).flatten.countP Event.isOuterDebug = 0 := by
    rw [List.countP_eq_zero]
    intro e he
    obtain ⟨es, hes, he⟩ := List.mem_flatten.1 he
    obtain ⟨pc, -, rfl⟩ := List.mem_map.1 hes
    obtain ⟨n, -, rfl⟩ := List.mem_map.1 he
    simp [Event.isOuterDebug, Event.inside]
  have hclosing : x.closingEvents.countP Event.isOuterDebug = 0 := by
    rw [closingEvents, List.countP_map]
    exact List.countP_eq_zero.2 fun _ _ h => by cases h
  rw [events_eq, List.countP_append, List.countP_append, hopening, hspans, hclosing,
    Nat.add_zero]

end Findings

/-- **Nothing is dropped or guessed silently.**  As many warnings are logged as there are
    renamed handles, types without a rule in all matched prototypes, duplicates, and exported
    declarations without a match; as many debug messages lie in no span as there are typedefs
    that declare no handle; and the warnings about a prototype are those that lie in its span. -/
theorem isReconciled_extract (x : Conventions) (header : Text) :
    IsReconciled (x.matchedFunctions header) (x.extract header) := by
  let found := x.findings (Header.normalize header)
  have hfs : x.matchedFunctions header =
      found.prototypes.map (·.function found.opaqueTypes x.stripPrefix) := by
    have hprototypes : found.prototypes =
        (Header.prototypes x.markers (Header.normalize header)).map (·.prototype) := rfl
    rw [hprototypes, List.map_map]
    rfl
  have hclaims : found.claims = claimStems [] (x.matchedFunctions header) := by
    rw [hfs]
    rfl
  have hlength : found.claims.length = found.prototypes.length := by
    rw [hclaims, length_claimStems, hfs, List.length_map]
  constructor
  · rw [hfs]
    exact found.countP_warnings x.stripPrefix hlength
  · exact found.countP_outerDebugs
  · refine ⟨found.openingEvents, found.closingEvents,
      spansOf found.opaqueTypes found.prototypes found.claims, found.events_eq, found.isOutside,
      ?_, ?_⟩
    · rw [spansOf, List.length_map, List.length_zip, hlength, Nat.min_self, hfs, List.length_map]
    · intro i hf hs
      have hp : i < found.prototypes.length := by rwa [hfs, List.length_map] at hf
      have hc : i < found.claims.length := by rwa [hlength]
      have hfunction : (x.matchedFunctions header)[i] =
          found.prototypes[i].function found.opaqueTypes x.stripPrefix := by
        simp only [hfs, List.getElem_map]
      have hclaim : found.claims[i] = ⟨(x.matchedFunctions header)[i],
          ((x.matchedFunctions header).take i).find?
            (·.stem = (x.matchedFunctions header)[i].stem)⟩ := by
        simp only [hclaims]
        exact getElem_claimStems _ i hf _
      have hspan : (spansOf found.opaqueTypes found.prototypes found.claims)[i] =
          spanOf found.opaqueTypes found.prototypes[i] found.claims[i] := by
        simp only [spansOf, List.getElem_map, List.getElem_zip]
      rw [hspan, hclaim, hfunction]
      exact isSpan_spanOf found.opaqueTypes x.stripPrefix found.prototypes[i] _

/-- A renamed handle, a type without a rule that is met twice, a duplicate and a callback. -/
example : (Conventions.builtin.extract <|
    "typedef struct Api Api; typedef struct A B;\n" ++
    "OGA_EXPORT Foo* OGA_API_CALL OgaGet_A(Api* a, Foo f);\n" ++
    "OGA_EXPORT int OGA_API_CALL OgaGetA(void);\n" ++
    "OGA_EXPORT int (*OGA_API_CALL OgaCall)(void);").events.countP Event.isWarning = 5 := by
  decide +kernel

end HeaderBindings
