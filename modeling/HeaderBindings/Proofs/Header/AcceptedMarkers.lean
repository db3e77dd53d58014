import HeaderBindings.Proofs.Header.Isolation
import HeaderBindings.Proofs.Header.Layout

/-!
# Which markers find a prototype

A marker is accepted if it is one word (`Markers.error?_eq_none_iff`), be it of letters or
of other characters.  For a header that is one prototype, two things decide whether the
prototype is found and nothing is left over.

* A match begins at a word boundary.  At the beginning of a text there is one in front of a
  word character only, so an export marker that begins with another character is never
  matched there.
* The scan for left over markers looks behind the first marker too, into the call marker,
  the name and the parameters.  It passes no blank, so that what it finds is found word by
  word (`aloneCount_unwords`).
-/

namespace HeaderBindings

/-- **A marker is accepted if it is one word.** -/
theorem Markers.fault?_eq_none_iff {marker : Text} :
    fault? marker = none ↔ Text.IsInk marker := by
  unfold fault? Text.IsInk
  by_cases hnil : marker = []
  · simp [hnil]
  · simp [hnil]

theorem Markers.error?_eq_none_iff {m : Markers} :
    m.error? = none ↔ Text.IsInk m.exporting ∧ Text.IsInk m.calling := by
  rw [← fault?_eq_none_iff, ← fault?_eq_none_iff, error?]
  cases fault? m.exporting <;> simp

namespace Header

/-! ## 1. Counting the places where a marker stands alone -/

/-- The number of occurrences of a marker that stand alone. -/
def aloneCount (marker t : Text) : Nat :=
  (occurrences marker t).countP (Occurrence.standsAlone marker)

theorem occurrencesFrom_of_length_le {marker : Text} {place skip : Nat} {before : Option Char}
    {t : Text} (h : t.length ≤ skip) : occurrencesFrom marker place skip before t = [] := by
  induction t generalizing place skip before with
  | nil => rfl
  | cons c t ih =>
    cases skip with
    | zero => simp at h
    | succ skip => exact ih (by simpa using h)

theorem occurrencesFrom_of_pos {marker t : Text} {c : Char}
    (h : marker.isPrefixOf (c :: t) = true) (place : Nat) (before : Option Char) :
    occurrencesFrom marker place 0 before (c :: t) =
      ⟨place, before, c :: t⟩ ::
        occurrencesFrom marker (place + 1) (marker.length - 1) (some c) t := by
  rw [occurrencesFrom, if_pos h]

theorem occurrencesFrom_of_neg {marker t : Text} {c : Char}
    (h : ¬ marker.isPrefixOf (c :: t) = true) (place : Nat) (before : Option Char) :
    occurrencesFrom marker place 0 before (c :: t) =
      occurrencesFrom marker (place + 1) 0 (some c) t := by
  rw [occurrencesFrom, if_neg h]

/-- An occurrence is where it says to be, and the marker is written there. -/
theorem occurrencesFrom_sound {marker : Text} {place skip : Nat} {before : Option Char}
    {t : Text} {o : Occurrence} (h : o ∈ occurrencesFrom marker place skip before t) :
    place ≤ o.start ∧ o.text <:+ t ∧ marker <+: o.text := by
  induction t generalizing place skip before with
  | nil => cases h
  | cons c t ih =>
    have hrest : ∀ {skip}, o ∈ occurrencesFrom marker (place + 1) skip (some c) t →
        place ≤ o.start ∧ o.text <:+ c :: t ∧ marker <+: o.text := by
      intro skip h
      obtain ⟨hstart, htext, hmarker⟩ := ih h
      exact ⟨Nat.le_of_succ_le hstart, htext.trans (List.suffix_cons c t), hmarker⟩
    cases skip with
    | succ skip => exact hrest h
    | zero =>
      by_cases hp : marker.isPrefixOf (c :: t) = true
      · rw [occurrencesFrom_of_pos hp] at h
        rcases List.mem_cons.1 h with rfl | h
        · exact ⟨Nat.le_refl _, List.suffix_refl _, List.isPrefixOf_iff_prefix.1 hp⟩
        · exact hrest h
      · rw [occurrencesFrom_of_neg hp] at h
        exact hrest h

/-- A marker that is no part of a text is not found in it. -/
theorem aloneCount_eq_zero {marker t : Text} (h : ¬ marker <:+: t) : aloneCount marker t = 0 := by
  rw [aloneCount, List.countP_eq_zero]
  intro o ho
  obtain ⟨-, htext, hmarker⟩ := occurrencesFrom_sound ho
  exact absurd (hmarker.isInfix.trans htext.isInfix) h

/-- Of what stands before a text it matters whether it is part of a name; the place of the
    text does not matter. -/
theorem countP_occurrencesFrom_congr {marker t : Text} {place place' skip : Nat}
    {before before' : Option Char} (h : before.any isNamePart = before'.any isNamePart) :
    (occurrencesFrom marker place skip before t).countP (Occurrence.standsAlone marker) =
      (occurrencesFrom marker place' skip before' t).countP (Occurrence.standsAlone marker) := by
  induction t generalizing place place' skip before before' with
  | nil => rfl
  | cons c t ih =>
    cases skip with
    | succ skip => exact ih rfl
    | zero =>
      have halone : Occurrence.standsAlone marker ⟨place, before, c :: t⟩ =
          Occurrence.standsAlone marker ⟨place', before', c :: t⟩ := by
        unfold Occurrence.standsAlone
        rw [h]
      by_cases hp : marker.isPrefixOf (c :: t) = true
      · rw [occurrencesFrom_of_pos hp, occurrencesFrom_of_pos hp, List.countP_cons,
          List.countP_cons, halone, ih rfl]
      · rw [occurrencesFrom_of_neg hp, occurrencesFrom_of_neg hp]
        exact ih rfl

/-- A text without a character begins a longer text only in front of that character. -/
theorem isPrefixOf_append_cons {p : Text} {c : Char} (hc : c ∉ p) (w u : Text) :
    p.isPrefixOf (w ++ c :: u) = p.isPrefixOf w := by
  induction p generalizing w with
  | nil => rw [List.isPrefixOf_nil_left, List.isPrefixOf_nil_left]
  | cons a p ih =>
    rw [List.mem_cons, not_or] at hc
    cases w with
    | nil => simp [List.isPrefixOf, Ne.symm hc.1]
    | cons b w => simp [List.isPrefixOf, ih hc.2]

theorem isNamePart_space : isNamePart ' ' = false := by decide

/-- A space behind a text does not change whether an occurrence in it stands alone. -/
theorem standsAlone_append_space {marker w : Text}
    (hw : marker.isPrefixOf w = true) (place : Nat) (before : Option Char) (u : Text) :
    Occurrence.standsAlone marker ⟨place, before, w ++ ' ' :: u⟩ =
      Occurrence.standsAlone marker ⟨place, before, w⟩ := by
  obtain ⟨rest, rfl⟩ := List.isPrefixOf_iff_prefix.1 hw
  unfold Occurrence.standsAlone
  simp only [List.append_assoc, List.drop_left]
  cases rest with
  | nil => simp [isNamePart_space]
  | cons d rest => rfl

section
variable {marker : Text} (hm : Text.IsInk marker)
include hm

/-- What is found in a text and behind a space is found in each of them. -/
theorem countP_occurrencesFrom_append {w : Text} {skip : Nat} (hskip : skip ≤ w.length)
    (place : Nat) (before : Option Char) (u : Text) :
    (occurrencesFrom marker place skip before (w ++ ' ' :: u)).countP
        (Occurrence.standsAlone marker) =
      (occurrencesFrom marker place skip before w).countP (Occurrence.standsAlone marker) +
        aloneCount marker u := by
  induction w generalizing place skip before with
  | nil =>
    obtain rfl : skip = 0 := by simpa using hskip
    have hnot : ¬ marker.isPrefixOf (' ' :: u) = true := by
      have hnil : marker.isPrefixOf (' ' :: u) = marker.isPrefixOf [] :=
        isPrefixOf_append_cons (hm.notMem (by decide)) [] u
      rw [hnil, List.isPrefixOf_iff_prefix, List.prefix_nil]
      exact hm.1
    have hempty : occurrencesFrom marker place 0 before [] = [] := rfl
    rw [List.nil_append, occurrencesFrom_of_neg hnot, hempty, List.countP_nil, Nat.zero_add]
    exact countP_occurrencesFrom_congr (by simp [isNamePart_space])
  | cons c w ih =>
    cases skip with
    | succ skip => exact ih (by simpa using hskip) (place + 1) (some c)
    | zero =>
      have hbegins : marker.isPrefixOf (c :: (w ++ ' ' :: u)) = marker.isPrefixOf (c :: w) :=
        isPrefixOf_append_cons (hm.notMem (by decide)) (c :: w) u
      rw [List.cons_append]
      by_cases hp : marker.isPrefixOf (c :: w) = true
      · -- the rest of the occurrence ends in front of the space
        have hlength := (List.isPrefixOf_iff_prefix.1 hp).length_le
        have hrest : marker.length - 1 ≤ w.length := by
          rw [List.length_cons] at hlength
          omega
        have halone := standsAlone_append_space hp place before u
        rw [List.cons_append] at halone
        rw [occurrencesFrom_of_pos (hbegins.trans hp), occurrencesFrom_of_pos hp,
          List.countP_cons, List.countP_cons, halone, ih hrest (place + 1) (some c)]
        omega
      · rw [occurrencesFrom_of_neg (fun h => hp (hbegins.symm.trans h)),
          occurrencesFrom_of_neg hp]
        exact ih (Nat.zero_le _) (place + 1) (some c)

theorem aloneCount_append (w u : Text) :
    aloneCount marker (w ++ ' ' :: u) = aloneCount marker w + aloneCount marker u :=
  countP_occurrencesFrom_append hm (Nat.zero_le _) 0 none u

/-- **A marker is found word by word.** -/
theorem aloneCount_unwords (ws : List Text) :
    aloneCount marker (Text.unwords ws) = (ws.map (aloneCount marker)).sum := by
  induction ws with
  | nil => rfl
  | cons w ws ih =>
    cases ws with
    | nil => simp [Text.unwords_singleton]
    | cons v ws =>
      rw [Text.unwords_cons_cons, aloneCount_append hm, ih, List.map_cons (a := w),
        List.sum_cons]

/-- Behind a marker that a text begins with, the marker is found in the other words. -/
theorem aloneCount_of_collapse_eq {t rest : Text} (h : Text.collapse t = marker ++ ' ' :: rest) :
    aloneCount marker rest = ((Text.words t).tail.map (aloneCount marker)).sum := by
  have hwords : Text.words t = marker :: Text.words rest := by
    rw [← Text.words_collapse, h, Text.words_append_blank (by decide), hm.words_eq]
    rfl
  have hrest : rest = Text.unwords (Text.words rest) := by
    rw [Text.collapse, hwords] at h
    cases hws : Text.words rest with
    | nil =>
      rw [hws, Text.unwords_singleton] at h
      simpa using congrArg List.length h
    | cons w ws =>
      rw [hws, Text.unwords_cons_cons] at h
      exact (List.cons_eq_cons.1 (List.append_cancel_left h)).2.symm
  rw [hwords, List.tail_cons, ← aloneCount_unwords hm, ← hrest]

/-- The marker that a text begins with is found first. -/
theorem occurrences_append (t : Text) : ∃ later,
    occurrences marker (marker ++ t) = ⟨0, none, marker ++ t⟩ :: later ∧
      ∀ o ∈ later, 0 < o.start := by
  obtain ⟨c, e, rfl⟩ := List.exists_cons_of_ne_nil hm.1
  have hbegins : (c :: e).isPrefixOf (c :: (e ++ t)) = true :=
    List.isPrefixOf_iff_prefix.2 (List.prefix_append (c :: e) t)
  refine ⟨occurrencesFrom (c :: e) 1 ((c :: e).length - 1) (some c) (e ++ t), ?_, ?_⟩
  · exact occurrencesFrom_of_pos hbegins 0 none
  · intro o ho
    exact (occurrencesFrom_sound ho).1

theorem aloneCount_self : aloneCount marker marker = 1 := by
  obtain ⟨c, e, rfl⟩ := List.exists_cons_of_ne_nil hm.1
  have hbegins : (c :: e).isPrefixOf (c :: e) = true :=
    List.isPrefixOf_iff_prefix.2 (List.prefix_refl _)
  rw [aloneCount, occurrences, occurrencesFrom_of_pos hbegins,
    occurrencesFrom_of_length_le (by simp)]
  simp [Occurrence.standsAlone]

end

/-! ## 2. Left over markers -/

section
variable {m : Markers} (he : Text.IsInk m.exporting) {found : List Match} (u : Text)
include he

/-- Where a text begins with a match, what is left over lies behind the marker of the match. -/
theorem length_unmatched_of_match (hfound : found.map Match.start = [0]) :
    (unmatched m found (m.exporting ++ ' ' :: u)).length = aloneCount m.exporting u := by
  obtain ⟨later, hlater, hstart⟩ := occurrences_append he (' ' :: u)
  have halone :
      Occurrence.standsAlone m.exporting ⟨0, none, m.exporting ++ ' ' :: u⟩ = true := by
    simp [Occurrence.standsAlone, isNamePart_space]
  have hcount := aloneCount_append he m.exporting u
  rw [aloneCount_self he, aloneCount, hlater, List.countP_cons_of_pos halone] at hcount
  have hrest : later.filter (fun o => o.standsAlone m.exporting && decide (o.start ∉ [0])) =
      later.filter (Occurrence.standsAlone m.exporting) := by
    apply List.filter_congr
    intro o ho
    simp [Nat.pos_iff_ne_zero.1 (hstart o ho)]
  rw [unmatched, hfound, hlater, List.filter_cons_of_neg (by simp), hrest,
    ← List.countP_eq_length_filter]
  omega

/-- Where a text begins with a marker and with no match, the marker is left over. -/
theorem length_unmatched_pos (hfound : 0 ∉ found.map Match.start) :
    0 < (unmatched m found (m.exporting ++ ' ' :: u)).length := by
  obtain ⟨later, hlater, -⟩ := occurrences_append he (' ' :: u)
  have hkept : (⟨0, none, m.exporting ++ ' ' :: u⟩ : Occurrence) ∈
      unmatched m found (m.exporting ++ ' ' :: u) := by
    rw [unmatched, hlater]
    refine List.mem_filter.2 ⟨List.mem_cons_self, ?_⟩
    simpa [Occurrence.standsAlone, isNamePart_space] using hfound
  exact List.length_pos_of_mem hkept

end

/-! ## 3. One prototype -/

theorem le_start_of_mem_matchesFrom {m : Markers} {place skip : Nat} {before : Option Char}
    {t : Text} {x : Match} (h : x ∈ matchesFrom m place skip before t) : place ≤ x.start := by
  induction t generalizing place skip before with
  | nil => cases h
  | cons c t ih =>
    unfold matchesFrom at h
    split at h
    · exact Nat.le_of_succ_le (ih h)
    · split at h
      · rcases List.mem_cons.1 h with rfl | h
        · exact Nat.le_refl _
        · exact Nat.le_of_succ_le (ih h)
      · exact Nat.le_of_succ_le (ih h)

/-- At the beginning of a text there is a word boundary in front of a word character only. -/
theorem zero_notMem_starts {m : Markers} {t : Text} (h : t.head?.any isWord = false) :
    0 ∉ (prototypes m t).map Match.start := by
  intro hmem
  obtain ⟨x, hx, hstart⟩ := List.mem_map.1 hmem
  cases t with
  | nil => cases hx
  | cons c t =>
    have hread : Prototype.read? m none (c :: t) = none := by
      rw [Option.eq_none_iff_forall_ne_some]
      rintro ⟨p, tail⟩ hp
      have hboundary := (Prototype.read?_eq_some_iff.1 hp).1
      rw [Prototype.isBoundary, h] at hboundary
      cases hboundary
    rw [prototypes, matchesFrom, hread] at hx
    have hle := le_start_of_mem_matchesFrom hx
    omega

/-- The texts that a prototype has besides its markers: a return type, a name, and what
    stands between the parentheses. -/
structure IsPrototypeText (ret name inner : Text) : Prop where
  type_solid : Text.IsSolid ret
  /-- The type has no semicolon, brace or parenthesis. -/
  type_goes_on : ∀ c ∈ ret, Prototype.endsType c = false
  type_plain : IsPlain ret
  name : IsName name
  closing : ')' ∉ inner
  params_plain : IsPlain inner

instance (ret name inner : Text) : Decidable (IsPrototypeText ret name inner) :=
  decidable_of_iff (Text.IsSolid ret ∧ (∀ c ∈ ret, Prototype.endsType c = false) ∧ IsPlain ret ∧
      IsName name ∧ ')' ∉ inner ∧ IsPlain inner)
    ⟨fun ⟨h₁, h₂, h₃, h₄, h₅, h₆⟩ => ⟨h₁, h₂, h₃, h₄, h₅, h₆⟩,
      fun ⟨h₁, h₂, h₃, h₄, h₅, h₆⟩ => ⟨h₁, h₂, h₃, h₄, h₅, h₆⟩⟩

/-- The header is a prototype of these texts alone.  A gap may stand in front of each of its
    tokens, and has to around the markers. -/
def IsPrototypeHeader (m : Markers) (ret name inner header : Text) : Prop :=
  ∃ g₀ g₁ g₂ g₃ g₄ g₅ last,
    header = Text.laid (prototypeLayout m g₀ g₁ g₂ g₃ g₄ g₅ ret name inner) ++ last ∧
    Text.BlankGaps (prototypeLayout m g₀ g₁ g₂ g₃ g₄ g₅ ret name inner) ∧
    IsBlankText last ∧ g₁ ≠ [] ∧ g₂ ≠ [] ∧ g₃ ≠ []

theorem isPrototypeHeader_spaced (m : Markers) (ret name inner : Text) :
    IsPrototypeHeader m ret name inner
      (m.exporting ++ ' ' :: (ret ++ ' ' :: (m.calling ++ ' ' :: (name ++ '(' ::
        (inner ++ ([')', ';'] : Text)))))) := by
  refine ⟨[], [' '], [' '], [' '], [], [], [], ?_, ?_, ?_, by decide, by decide, by decide⟩
  · simp [prototypeLayout, Text.laid]
  · have hall : ∀ g ∈ ([[], [' ']] : List Text), IsBlankText g := by decide
    intro q hq
    apply hall
    simp only [prototypeLayout, List.mem_cons, List.not_mem_nil, or_false] at hq
    rcases hq with rfl | rfl | rfl | rfl | rfl | rfl <;> simp
  · decide

theorem isPlain_of_isName {w : Text} (h : IsName w) : IsPlain w := by
  intro c hc
  have hword := h.2 c hc
  refine ⟨?_, ?_, ?_, ?_⟩ <;>
  · rintro rfl
    revert hword
    decide

section
variable {m : Markers} {ret name inner header : Text} (hp : IsPrototypeText ret name inner)
  (hheader : IsPrototypeHeader m ret name inner header)
include hp hheader

theorem isPlain_of_isPrototypeHeader (hexporting : IsPlain m.exporting)
    (hcalling : IsPlain m.calling) : IsPlain header := by
  obtain ⟨g₀, g₁, g₂, g₃, g₄, g₅, last, rfl, hgaps, hlast, -⟩ := hheader
  intro c hc
  rcases List.mem_append.1 hc with hc | hc
  · obtain ⟨q, hq, hc⟩ := List.mem_flatMap.1 hc
    rcases List.mem_append.1 hc with hc | hc
    · exact isPlain_of_isBlankText (hgaps q hq) c hc
    · simp only [prototypeLayout, List.mem_cons, List.not_mem_nil, or_false] at hq
      rcases hq with rfl | rfl | rfl | rfl | rfl | rfl
      · exact hexporting c hc
      · exact hp.type_plain c hc
      · exact hcalling c hc
      · exact isPlain_of_isName hp.name c hc
      · rcases List.mem_cons.1 hc with rfl | hc
        · decide
        · rcases List.mem_append.1 hc with hc | hc
          · exact hp.params_plain c hc
          · rw [List.mem_singleton.1 hc]
            decide
      · rw [List.mem_singleton.1 hc]
        decide
  · exact isPlain_of_isBlankText hlast c hc

variable (he : Text.IsInk m.exporting) (hc : Text.IsInk m.calling)
include he hc

theorem exists_collapse_eq_of_isPrototypeHeader :
    ∃ rest, Text.collapse header = m.exporting ++ ' ' :: rest := by
  obtain ⟨g₀, g₁, g₂, g₃, g₄, g₅, last, rfl, hgaps, hlast, h₁, h₂, h₃⟩ := hheader
  rw [Text.collapse_append_blanks hlast,
    collapse_prototypeLayout he hc hgaps h₁ h₂ h₃ hp.type_solid hp.name.isInk]
  exact ⟨_, rfl⟩

theorem prototypes_of_isPrototypeHeader (hword : m.exporting.head?.any isWord = true) :
    prototypes m (Text.collapse header) =
      [⟨0, ⟨Text.squeeze ret, name, Text.squeeze inner⟩⟩] := by
  obtain ⟨g₀, g₁, g₂, g₃, g₄, g₅, last, rfl, hgaps, hlast, h₁, h₂, h₃⟩ := hheader
  rw [Text.collapse_append_blanks hlast]
  exact prototypes_eq_singleton (read?_prototypeLayout he hc hword hgaps h₁ h₂ h₃ hp.type_solid
    hp.type_goes_on hp.name hp.closing)

/-- Nothing is left over iff the marker can begin a match and stands alone in no word behind
    the first one. -/
theorem length_unmatched_eq_zero_iff :
    (unmatched m (prototypes m (Text.collapse header)) (Text.collapse header)).length = 0 ↔
      m.exporting.head?.any isWord = true ∧
        ∀ w ∈ (Text.words header).tail, aloneCount m.exporting w = 0 := by
  obtain ⟨rest, hrest⟩ := exists_collapse_eq_of_isPrototypeHeader hp hheader he hc
  by_cases hword : m.exporting.head?.any isWord = true
  · have hfound := prototypes_of_isPrototypeHeader hp hheader he hc hword
    rw [hfound, hrest, length_unmatched_of_match he rest rfl, aloneCount_of_collapse_eq he hrest,
      List.sum_eq_zero_iff_forall_eq_nat, List.forall_mem_map]
    exact (and_iff_right hword).symm
  · have hhead : (Text.collapse header).head?.any isWord = false := by
      obtain ⟨c, e, hce⟩ := List.exists_cons_of_ne_nil he.1
      rw [hce] at hword
      rw [hrest, hce]
      simpa using hword
    have hpos := length_unmatched_pos he rest (zero_notMem_starts (m := m) hhead)
    rw [← hrest] at hpos
    constructor
    · intro h
      omega
    · intro h
      exact absurd h.1 hword

end

end Header

/-! ## 4. Accepted markers -/

theorem Conventions.symbols_of_prototypes {x : Conventions} {t : Text} {found : Header.Match}
    (h : Header.prototypes x.markers t = [found]) :
    (x.findings t).declarations.functions.map (·.symbol) = [found.prototype.name] := by
  have hclaims : (x.findings t).claims = x.claims (x.findings t).opaqueTypes
      ((Header.prototypes x.markers t).map (·.prototype)) := rfl
  rw [Findings.declarations, hclaims, h]
  rfl

/-- **Which accepted markers find a prototype.**  Every pair of words is accepted.  A header
    that is one prototype gives its function if the export marker begins with a word
    character.  Nothing is left over iff, besides, the export marker stands alone in no word
    of the header but the first. -/
theorem extract_prototype {m : Markers} (hm : m.error? = none)
    (hexporting : Header.IsPlain m.exporting) (hcalling : Header.IsPlain m.calling)
    (stripPrefix : Text) {ret name inner header : Text}
    (hp : Header.IsPrototypeText ret name inner)
    (hheader : Header.IsPrototypeHeader m ret name inner header) :
    ∃ x, Conventions.ofMarkers m stripPrefix = .ok x ∧
      (m.exporting.head?.any isWord = true →
        (x.extract header).declarations.functions.map (·.symbol) = [name]) ∧
      ((x.extract header).declarations.unmatched = 0 ↔
        m.exporting.head?.any isWord = true ∧
          ∀ w ∈ (Text.words header).tail, Header.aloneCount m.exporting w = 0) := by
  obtain ⟨he, hc⟩ := Markers.error?_eq_none_iff.1 hm
  have hnormal := Header.normalize_of_isPlain
    (Header.isPlain_of_isPrototypeHeader hp hheader hexporting hcalling)
  refine ⟨⟨m, stripPrefix⟩, by rw [Conventions.ofMarkers, hm], ?_, ?_⟩
  · intro hword
    have hfound := Header.prototypes_of_isPrototypeHeader hp hheader he hc hword
    rw [← hnormal] at hfound
    exact Conventions.symbols_of_prototypes (x := ⟨m, stripPrefix⟩) hfound
  · rw [← Header.length_unmatched_eq_zero_iff hp hheader he hc, ← hnormal]
    rfl

/-- Markers with other characters in them, of which the first one begins with a letter. -/
theorem extract_prototype_of_punctuation :
    ∃ x, Conventions.ofMarkers ⟨"API+", "CALL.X"⟩ [] = .ok x ∧
      (x.extract "API+ int CALL.X f(void);").declarations.functions.map (·.symbol) = ["f"] ∧
      (x.extract "API+ int CALL.X f(void);").declarations.unmatched = 0 := by
  have hheader : Header.IsPrototypeHeader ⟨"API+", "CALL.X"⟩ "int" "f" "void"
      "API+ int CALL.X f(void);" := Header.isPrototypeHeader_spaced _ _ _ _
  obtain ⟨x, hx, hfound, hleft⟩ := extract_prototype (m := ⟨"API+", "CALL.X"⟩) (by decide)
    (by decide) (by decide) [] (by decide) hheader
  -- the export marker is part of no other word
  have hparts : ∀ w ∈ (Text.words "API+ int CALL.X f(void);").tail, ¬ ("API+" : Text) <:+: w := by
    decide
  exact ⟨x, hx, hfound (by decide),
    hleft.2 ⟨by decide, fun w hw => Header.aloneCount_eq_zero (hparts w hw)⟩⟩

/-- Not every accepted pair of markers finds a prototype whose type, name and parameters have
    neither marker in them: `@API` begins no match. -/
theorem not_forall_extract_prototype :
    ¬ ∀ (m : Markers) (stripPrefix ret name inner header : Text), m.error? = none →
      Header.IsPlain m.exporting → Header.IsPlain m.calling →
      Header.IsPrototypeText ret name inner →
      Header.IsPrototypeHeader m ret name inner header →
      (∀ t ∈ [ret, name, inner], ¬ m.exporting <:+: t ∧ ¬ m.calling <:+: t) →
      ∃ x, Conventions.ofMarkers m stripPrefix = .ok x ∧
        (x.extract header).declarations.functions.map (·.symbol) = [name] ∧
        (x.extract header).declarations.unmatched = 0 := by
  intro h
  have hheader : Header.IsPrototypeHeader ⟨"@API", "CALL"⟩ "int" "f" "void"
      "@API int CALL f(void);" := Header.isPrototypeHeader_spaced _ _ _ _
  obtain ⟨x, hx, hfunctions, -⟩ := h ⟨"@API", "CALL"⟩ [] "int" "f" "void"
    "@API int CALL f(void);" (by decide) (by decide) (by decide) (by decide) hheader (by decide)
  have hx' : Conventions.ofMarkers ⟨"@API", "CALL"⟩ [] = .ok ⟨⟨"@API", "CALL"⟩, []⟩ := by decide
  cases hx'.symm.trans hx
  revert hfunctions
  decide +kernel

/-- A call marker in which the export marker stands alone is left over behind the match. -/
example : ((⟨⟨"API", "API"⟩, []⟩ : Conventions).extract
    "API int API f(void);").declarations.unmatched = 1 := by decide +kernel

end HeaderBindings
