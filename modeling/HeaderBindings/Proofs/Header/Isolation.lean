import HeaderBindings.Proofs.Header.Accounts
import HeaderBindings.Proofs.Header.Segments
import HeaderBindings.Proofs.OpaqueTypes
import Mathlib.Algebra.BigOperators.Group.List.Basic
import Mathlib.Algebra.GroupWithZero.Nat
import Mathlib.Data.List.Infix

/-!
# Declarations are isolated

A header is written as a sequence of declaration texts with blanks between them.  Nothing
is known of a declaration text but how its parentheses and its semicolon stand: no part
from its beginning on closes more parentheses than it opens, all of them are closed at the
end, and the only semicolon is its last character (`IsDeclarationText`).  Such a text is
sealed (`IsDeclarationText.isSealed`), so that the searches read the header declaration
by declaration.

The unmatched declarations are no search of this kind, since an occurrence of the export
marker counts as unmatched when no match begins there.  Their number is the rest that the
matches leave of the names equal to the marker, and both of these are added up.

The main result is `extract_concat`.
-/

namespace HeaderBindings

namespace Header

/-! ## 1. Declaration texts -/

/-- A text that could be one declaration, whatever it declares. -/
structure IsDeclarationText (d : Text) : Prop where
  ascii : IsAscii d
  plain : IsPlain d
  /-- No part from the beginning on closes more parentheses than it opens. -/
  opened : ∀ a ∈ d.inits, a.count ')' ≤ a.count '('
  closed : d.count '(' = d.count ')'
  ends : d.getLast? = some ';'
  once : d.count ';' = 1

instance (d : Text) : Decidable (IsDeclarationText d) :=
  decidable_of_iff (IsAscii d ∧ IsPlain d ∧ (∀ a ∈ d.inits, a.count ')' ≤ a.count '(') ∧
      d.count '(' = d.count ')' ∧ d.getLast? = some ';' ∧ d.count ';' = 1)
    ⟨fun ⟨h₁, h₂, h₃, h₄, h₅, h₆⟩ => ⟨h₁, h₂, h₃, h₄, h₅, h₆⟩,
      fun ⟨h₁, h₂, h₃, h₄, h₅, h₆⟩ => ⟨h₁, h₂, h₃, h₄, h₅, h₆⟩⟩

/-- The rest of a declaration text, behind the part `a`, closes what is open. -/
theorem isSealed_of_append {a t : Text}
    (hopened : ∀ b, b <+: a ++ t → b.count ')' ≤ b.count '(')
    (hclosed : (a ++ t).count '(' = (a ++ t).count ')')
    (hends : t.getLast? = some ';') (honce : t.count ';' = 1) : IsSealed t := by
  induction t generalizing a with
  | nil => cases hends
  | cons c t ih =>
    have hsplit : a ++ c :: t = (a ++ [c]) ++ t := by simp
    by_cases hc : c = ';'
    · -- the only semicolon is the last character
      subst hc
      rw [List.count_cons_self] at honce
      cases t with
      | nil => exact .semicolon
      | cons e t =>
        rw [List.getLast?_cons_cons] at hends
        have := List.count_pos_iff.2 (List.mem_of_getLast? hends)
        omega
    · have hne : t ≠ [] := by
        rintro rfl
        exact hc (by simpa using hends)
      have hends' : t.getLast? = some ';' := by
        obtain ⟨e, t, rfl⟩ := List.exists_cons_of_ne_nil hne
        rwa [List.getLast?_cons_cons] at hends
      rw [List.count_cons_of_ne hc] at honce
      refine .cons hc ?_ (ih (a := a ++ [c]) (by rwa [← hsplit]) (by rwa [← hsplit]) hends'
        honce)
      rintro rfl
      have hprefix := hopened a (List.prefix_append _ _)
      simp only [List.count_append, List.count_cons_self] at hclosed
      rw [List.count_cons_of_ne (by decide)] at hclosed
      exact List.count_pos_iff.1 (by omega)

theorem IsDeclarationText.isSealed {d : Text} (h : IsDeclarationText d) : IsSealed d := by
  apply isSealed_of_append (a := [])
  · intro b hb
    exact h.opened b ((List.mem_inits _ _).2 hb)
  · exact h.closed
  · exact h.ends
  · exact h.once

/-! ## 2. Blanks between declarations -/

/-- A header of declaration texts, each behind a gap of its own, with a last gap. -/
def concat (ds : List (Text × Text)) (last : Text) : Text :=
  (ds.flatMap fun d => d.1 ++ d.2) ++ last

theorem normalize_of_isPlain {t : Text} (h : IsPlain t) : normalize t = Text.collapse t := by
  rw [normalize, (stripsTo_plain h).strip_eq]

section Concat

variable {ds : List (Text × Text)} {last : Text} (hgaps : ∀ d ∈ ds, IsBlankText d.1)
  (hdecls : ∀ d ∈ ds, IsDeclarationText d.2) (hlast : IsBlankText last)

include hgaps hdecls hlast

theorem isPlain_concat : IsPlain (concat ds last) := by
  intro c hc
  rcases List.mem_append.1 hc with hc | hc
  · obtain ⟨d, hd, hc⟩ := List.mem_flatMap.1 hc
    rcases List.mem_append.1 hc with hc | hc
    · exact isPlain_of_isBlankText (hgaps d hd) c hc
    · exact (hdecls d hd).plain c hc
  · exact isPlain_of_isBlankText hlast c hc

theorem normalize_concat :
    normalize (concat ds last) = Text.collapse (ds.map fun d => d.1 ++ d.2).flatten := by
  rw [normalize_of_isPlain (isPlain_concat hgaps hdecls hlast), concat,
    Text.collapse_append_blanks hlast, List.flatMap_def]

/-- What is listed segment by segment is listed declaration by declaration. -/
theorem IsSegmentwise.normalize_concat {β : Type} {F : Text → List β} (hF : IsSegmentwise F) :
    F (normalize (concat ds last)) = ds.flatMap fun d => F (normalize d.2) := by
  have hsealed : ∀ t ∈ ds.map (fun d => d.1 ++ d.2), IsSealed t := by
    intro t ht
    obtain ⟨d, hd, rfl⟩ := List.mem_map.1 ht
    apply (hdecls d hd).isSealed.append ((hgaps d hd).not_mem (by decide))
    intro h
    exact absurd h ((hgaps d hd).not_mem (by decide))
  rw [Header.normalize_concat hgaps hdecls hlast, hF.collapse_flatten hsealed,
    List.flatMap_map]
  apply List.flatMap_congr
  intro d hd
  rw [Text.collapse_blanks_append (hgaps d hd), normalize_of_isPlain (hdecls d hd).plain]

/-- The blanks of the gaps need not be ASCII characters: none of them stays. -/
theorem isAscii_normalize_concat : IsAscii (normalize (concat ds last)) := by
  intro c hc
  rw [normalize_of_isPlain (isPlain_concat hgaps hdecls hlast)] at hc
  rcases Text.ink_of_mem_collapse hc with ⟨hc, hink⟩ | rfl
  · rcases List.mem_append.1 hc with hc | hc
    · obtain ⟨d, hd, hc⟩ := List.mem_flatMap.1 hc
      rcases List.mem_append.1 hc with hc | hc
      · exact absurd hc ((hgaps d hd).not_mem hink)
      · exact (hdecls d hd).ascii c hc
    · exact absurd hc (hlast.not_mem hink)
  · decide

end Concat

/-! ## 3. Counting what is unmatched -/

/-- The matches and what they leave unmatched are the names equal to the marker. -/
theorem length_prototypeTexts_add_length_unmatched {m : Markers}
    (he : IsIdentText m.exporting) {t : Text} (hascii : IsAscii t) :
    (prototypeTexts m 0 0 none t).length + (unmatched m (prototypes m t) t).length =
      (Text.names t).count m.exporting := by
  rw [← length_alonePositions he, ← length_prototypes_add_length_unmatched he hascii,
    prototypeTexts, List.length_map]
  rfl

theorem length_unmatched_concat {m : Markers} (he : IsIdentText m.exporting)
    (hc : IsIdentText m.calling) {ds : List (Text × Text)} {last : Text}
    (hgaps : ∀ d ∈ ds, IsBlankText d.1) (hdecls : ∀ d ∈ ds, IsDeclarationText d.2)
    (hlast : IsBlankText last) :
    (unmatched m (prototypes m (normalize (concat ds last)))
        (normalize (concat ds last))).length =
      (ds.map fun d =>
        (unmatched m (prototypes m (normalize d.2)) (normalize d.2)).length).sum := by
  have hwhole := length_prototypeTexts_add_length_unmatched he
    (isAscii_normalize_concat hgaps hdecls hlast)
  have hparts : (ds.map fun d => (Text.names (normalize d.2)).count m.exporting).sum =
      (ds.map fun d => (prototypeTexts m 0 0 none (normalize d.2)).length).sum +
        (ds.map fun d =>
          (unmatched m (prototypes m (normalize d.2)) (normalize d.2)).length).sum := by
    rw [← List.sum_map_add]
    apply congrArg
    apply List.map_congr_left
    intro d hd
    exact (length_prototypeTexts_add_length_unmatched he
      (isAscii_normalize (hdecls d hd).ascii)).symm
  rw [(isSegmentwise_prototypeTexts he hc).normalize_concat hgaps hdecls hlast,
    isSegmentwise_names.normalize_concat hgaps hdecls hlast, List.length_flatMap,
    List.count_flatMap] at hwhole
  have hcount : (ds.map (List.count m.exporting ∘ fun d => Text.names (normalize d.2))).sum =
      (ds.map fun d => (Text.names (normalize d.2)).count m.exporting).sum := rfl
  omega

end Header

/-! ## 4. Isolation -/

/-- The opaque types of a header are the aliases of its handle typedefs. -/
theorem Conventions.mem_nativeNames_extract {x : Conventions} {header name : Text} :
    name ∈ (x.extract header).declarations.opaqueTypes.nativeNames ↔
      ∃ d ∈ Header.typedefs (Header.normalize header), d.isHandle = true ∧
        d.aliasName = name := by
  have : (x.extract header).declarations.opaqueTypes =
      Conventions.opaqueTypes (Header.typedefs (Header.normalize header)) := rfl
  rw [this, Conventions.opaqueTypes, OpaqueTypes.mem_nativeNames_ofNames, List.mem_map]
  constructor
  · rintro ⟨d, hd, rfl⟩
    obtain ⟨hd, hhandle⟩ := List.mem_filter.1 hd
    exact ⟨d, hd, hhandle, rfl⟩
  · rintro ⟨d, hd, hhandle, rfl⟩
    exact ⟨d, List.mem_filter.2 ⟨hd, hhandle⟩, rfl⟩

/-- A header that is a sequence of declaration texts is read declaration by declaration. -/
structure Conventions.ReadsApart (x : Conventions) (ds : List (Text × Text)) (last : Text) :
    Prop where
  /-- The opaque types are those of the declarations alone. -/
  opaqueTypes : ∀ name,
    name ∈ (x.extract (Header.concat ds last)).declarations.opaqueTypes.nativeNames ↔
      ∃ d ∈ ds, name ∈ (x.extract d.2).declarations.opaqueTypes.nativeNames
  otherTypedefs : (x.extract (Header.concat ds last)).declarations.otherTypedefs =
    (ds.map fun d => (x.extract d.2).declarations.otherTypedefs).sum
  unmatched : (x.extract (Header.concat ds last)).declarations.unmatched =
    (ds.map fun d => (x.extract d.2).declarations.unmatched).sum
  /-- The matched prototypes, duplicates included, are those of the declarations alone,
      in order and with the same texts. -/
  prototypes : (x.findings (Header.normalize (Header.concat ds last))).prototypes =
    ds.flatMap fun d => (x.findings (Header.normalize d.2)).prototypes
  /-- Every prototype is typed against the opaque types of the whole header. -/
  typed : (x.findings (Header.normalize (Header.concat ds last))).claims.map (·.function) =
    (x.findings (Header.normalize (Header.concat ds last))).prototypes.map
      (·.function (x.extract (Header.concat ds last)).declarations.opaqueTypes x.stripPrefix)
  /-- The functions are the typed prototypes whose claim to a method stem is the first. -/
  functions : (x.extract (Header.concat ds last)).declarations.functions =
    (x.findings (Header.normalize (Header.concat ds last))).claims.filterMap StemClaim.kept?

/-- **Declarations are isolated.**  With markers of letters, digits and underscores, a
    header of declaration texts with blanks between them is read declaration by
    declaration, whatever the texts declare. -/
theorem extract_concat {m : Markers} (he : IsIdentText m.exporting)
    (hc : IsIdentText m.calling) (stripPrefix : Text) {ds : List (Text × Text)}
    {last : Text} (hgaps : ∀ d ∈ ds, IsBlankText d.1)
    (hdecls : ∀ d ∈ ds, Header.IsDeclarationText d.2) (hlast : IsBlankText last) :
    ∃ x, Conventions.ofMarkers m stripPrefix = .ok x ∧ x.ReadsApart ds last := by
  refine ⟨⟨m, stripPrefix⟩, Conventions.ofMarkers_of_isIdentText he hc stripPrefix, ?_, ?_,
    ?_, ?_, ?_, rfl⟩
  · intro name
    simp only [Conventions.mem_nativeNames_extract,
      Header.isSegmentwise_typedefs.normalize_concat hgaps hdecls hlast, List.mem_flatMap]
    constructor
    · rintro ⟨t, ⟨d, hd, ht⟩, hhandle⟩
      exact ⟨d, hd, t, ht, hhandle⟩
    · rintro ⟨d, hd, t, ht, hhandle⟩
      exact ⟨t, ⟨d, hd, ht⟩, hhandle⟩
  · show ((Header.typedefs _).filter _).length = (ds.map fun d =>
      ((Header.typedefs (Header.normalize d.2)).filter (!·.isHandle)).length).sum
    rw [Header.isSegmentwise_typedefs.normalize_concat hgaps hdecls hlast,
      List.filter_flatMap, List.length_flatMap]
  · exact Header.length_unmatched_concat he hc hgaps hdecls hlast
  · exact (Header.isSegmentwise_prototypeTexts he hc).normalize_concat hgaps hdecls hlast
  · exact map_function_claimStems _ _

/-- A callback prototype between a prototype and the handle typedef that it refers to. -/
theorem extract_concat_of_callback :
    ∃ x, Conventions.ofMarkers ⟨"EX", "CALL"⟩ [] = .ok x ∧
      x.ReadsApart [([], "EX A* CALL f(int n);"), (" ", "EX int (*CALL g)(int);"),
        ("\n\t", "typedef struct A A;")] "\n" :=
  extract_concat (m := ⟨"EX", "CALL"⟩) (by decide) (by decide) [] (by decide)
    (by decide +kernel) (by decide)

end HeaderBindings
