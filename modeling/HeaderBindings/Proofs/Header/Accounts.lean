import HeaderBindings.Proofs.Header.Grammar
import HeaderBindings.Proofs.Header.Stripping
import HeaderBindings.Proofs.Stems
import HeaderBindings.Proofs.Text.Identifiers
import Mathlib.Data.List.Nodup
import Mathlib.Data.List.Range

/-!
# Every export marker is accounted for

Two independent scans look for exported declarations.  The search for prototypes takes
whole declarations, never two that overlap, and may run over further export markers on
its way to the end of one.  The search for left over markers looks for the marker's text
alone, never for two that overlap either, and tests the two neighbours of each.

Their results are compared with a third account that scans nothing: the positions of the
text at which the marker *stands alone* (`alonePositions`).  In an ASCII text, for a
marker of letters, digits and underscores,

* every match of the search for prototypes begins at such a position
  (`starts_matchesFrom_sublist`);
* the occurrences that the other search finds and keeps are exactly these positions
  (`starts_occurrencesFrom`): an occurrence that it skips because it overlaps an earlier
  one has a character of the marker in front, so that it does not stand alone.

Hence `functions_add_duplicates_add_unmatched`: the functions, the duplicates and the
unmatched declarations of a header are together as many as these positions.
-/

namespace HeaderBindings

namespace Header

/-! ## 1. Standing alone -/

/-- Does the marker stand alone at the position: is it written there, and is neither of
    the characters right before and right behind it, if there is one, an identifier
    character? -/
def standsAloneAt (marker t : Text) (i : Nat) : Bool :=
  marker.isPrefixOf (t.drop i) && !(t.take i).getLast?.any isIdent &&
    !(t.drop (i + marker.length)).head?.any isIdent

/-- The positions at which the marker stands alone, in increasing order. -/
def alonePositions (marker t : Text) : List Nat :=
  (List.range t.length).filter (standsAloneAt marker t)

theorem standsAloneAt_length (marker pre t : Text) :
    standsAloneAt marker (pre ++ t) pre.length =
      (marker.isPrefixOf t && !pre.getLast?.any isIdent &&
        !(t.drop marker.length).head?.any isIdent) := by
  unfold standsAloneAt
  rw [List.drop_left, List.take_left, ← List.drop_drop, List.drop_left]

theorem standsAloneAt_length_of_isIdent {marker pre t : Text}
    (h : pre.getLast?.any isIdent = true) :
    standsAloneAt marker (pre ++ t) pre.length = false := by
  rw [standsAloneAt_length, h]
  simp

/-! ## 2. Counting by names -/

/-- Whether a marker stands alone in front of a character is whether it is the first name. -/
theorem standsAlone_iff_takeWhile {marker t : Text} (hm : IsIdentText marker) :
    (marker.isPrefixOf t && !(t.drop marker.length).head?.any isIdent) = true ↔
      t.takeWhile isIdent = marker := by
  constructor
  · intro h
    rw [Bool.and_eq_true] at h
    obtain ⟨hp, hafter⟩ := h
    obtain ⟨r, rfl⟩ := List.isPrefixOf_iff_prefix.1 hp
    rw [List.drop_left] at hafter
    have hr : r.takeWhile isIdent = [] := by
      cases r with
      | nil => rfl
      | cons c r =>
        rw [List.takeWhile_cons_of_neg]
        simpa using hafter
    rw [List.takeWhile_append_of_pos hm.2, hr, List.append_nil]
  · intro h
    have hsplit := List.takeWhile_append_dropWhile (p := isIdent) (l := t)
    have hhead := Text.any_head?_dropWhile isIdent t
    rw [h] at hsplit
    rw [← hsplit, List.drop_left, hsplit, hhead]
    simpa using ⟨_, hsplit⟩

/-- The positions behind a part of the text at which the marker stands alone are the
    names equal to it; a name that the part begins is not one of them. -/
theorem length_filter_standsAloneAt {marker : Text} (hm : IsIdentText marker) (pre t : Text) :
    ((List.range' pre.length t.length).filter (standsAloneAt marker (pre ++ t))).length =
      (Text.names (if pre.getLast?.any isIdent then t.dropWhile isIdent else t)).count
        marker := by
  induction t generalizing pre with
  | nil => simp [Text.names, Text.words]
  | cons c t ih =>
    have hsplit : pre ++ c :: t = (pre ++ [c]) ++ t := by simp
    have hlen : pre.length + 1 = (pre ++ [c]).length := by simp
    have ih : ((List.range' (pre.length + 1) t.length).filter
          (standsAloneAt marker (pre ++ c :: t))).length =
        (Text.names (if isIdent c then t.dropWhile isIdent else t)).count marker := by
      rw [hsplit, hlen, ih (pre ++ [c])]
      simp
    rw [List.length_cons, List.range'_succ]
    by_cases hbefore : pre.getLast?.any isIdent = true
    · -- the name that goes on here has begun earlier
      rw [List.filter_cons_of_neg (by simp [standsAloneAt_length_of_isIdent hbefore]), ih,
        if_pos hbefore]
      by_cases hc : isIdent c = true
      · rw [if_pos hc, List.dropWhile_cons_of_pos hc]
      · rw [if_neg hc, List.dropWhile_cons_of_neg hc, Text.names_cons (by simpa using hc)]
    · rw [if_neg hbefore]
      have hbefore : pre.getLast?.any isIdent = false := by simpa using hbefore
      have halone : standsAloneAt marker (pre ++ c :: t) pre.length = true ↔
          (c :: t).takeWhile isIdent = marker := by
        rw [standsAloneAt_length, hbefore, ← standsAlone_iff_takeWhile hm]
        simp
      by_cases hc : isIdent c = true
      · -- a name begins here
        have hw : IsIdentText ((c :: t).takeWhile isIdent) := by
          refine ⟨by simp [hc], ?_⟩
          intro d hd
          exact List.mem_takeWhile_imp hd
        rw [if_pos hc] at ih
        rw [Text.names_dropWhile (c :: t), Text.names_of_isIdentText hw,
          List.dropWhile_cons_of_pos hc, List.singleton_append]
        by_cases ha : (c :: t).takeWhile isIdent = marker
        · rw [List.filter_cons_of_pos (halone.2 ha), List.length_cons, ih, ha,
            List.count_cons_self]
        · rw [List.filter_cons_of_neg (fun h => ha (halone.1 h)), ih,
            List.count_cons_of_ne ha]
      · have hc' : isIdent c = false := by simpa using hc
        have hnot : ¬ standsAloneAt marker (pre ++ c :: t) pre.length = true := by
          rw [halone, List.takeWhile_cons_of_neg hc]
          exact fun h => hm.1 h.symm
        rw [if_neg hc] at ih
        rw [List.filter_cons_of_neg hnot, ih, Text.names_cons hc']

/-- **The marker stands alone** where the text has the marker for a name. -/
theorem length_alonePositions {marker : Text} (hm : IsIdentText marker) (t : Text) :
    (alonePositions marker t).length = (Text.names t).count marker := by
  have h := length_filter_standsAloneAt hm [] t
  rw [List.nil_append, List.length_nil, ← List.range_eq_range'] at h
  exact h

/-! ## 3. Matches begin where the marker stands alone -/

/-- At the beginning of a prototype the export marker stands alone. -/
theorem standsAloneAt_of_read? {m : Markers} {pre t rest : Text} {p : Prototype}
    (hm : IsIdentText m.exporting) (hpre : IsAscii pre)
    (h : Prototype.read? m pre.getLast? t = some (p, rest)) :
    standsAloneAt m.exporting (pre ++ t) pre.length = true := by
  obtain ⟨hb, u, rfl, -⟩ := Prototype.read?_eq_some_iff.1 h
  -- the marker begins with a word character, so the boundary keeps one from standing before it
  have hfirst : (m.exporting ++ ' ' :: u).head?.any isWord = true := by
    cases he : m.exporting with
    | nil => exact absurd he hm.1
    | cons c e => simpa using isWord_of_isIdent (hm.2 c (by simp [he]))
  have hbefore : pre.getLast?.any isIdent = false := by
    have hw : pre.getLast?.any isWord = false := by
      rw [Prototype.isBoundary, hfirst] at hb
      cases hx : pre.getLast?.any isWord with
      | false => rfl
      | true =>
        rw [hx] at hb
        cases hb
    cases hl : pre.getLast? with
    | none => rfl
    | some c =>
      rw [hl, Option.any_some, isWord_eq_isIdent (hpre c (List.mem_of_getLast? hl))] at hw
      simpa using hw
  rw [standsAloneAt_length, hbefore, List.drop_left]
  simpa using (by decide : isIdent ' ' = false)

/-- The matches begin at positions where the export marker stands alone, each at a
    position of its own. -/
theorem starts_matchesFrom_sublist {m : Markers} (hm : IsIdentText m.exporting)
    (pre t : Text) (skip : Nat) (hascii : IsAscii (pre ++ t)) :
    ((matchesFrom m pre.length skip pre.getLast? t).map Match.start).Sublist
      ((List.range' pre.length t.length).filter (standsAloneAt m.exporting (pre ++ t))) := by
  induction t generalizing pre skip with
  | nil => simp [matchesFrom]
  | cons c t ih =>
    have hsplit : pre ++ c :: t = (pre ++ [c]) ++ t := by simp
    have hlen : pre.length + 1 = (pre ++ [c]).length := by simp
    have hlast : some c = (pre ++ [c]).getLast? := by simp
    have ih' : ∀ skip, ((matchesFrom m (pre.length + 1) skip (some c) t).map Match.start).Sublist
        ((List.range' (pre.length + 1) t.length).filter
          (standsAloneAt m.exporting (pre ++ c :: t))) := by
      intro skip
      rw [hsplit, hlen, hlast]
      exact ih (pre ++ [c]) skip (by rwa [← hsplit])
    -- what the rest of the text contributes is the same list with or without this position
    have hcons : ((List.range' (pre.length + 1) t.length).filter
          (standsAloneAt m.exporting (pre ++ c :: t))).Sublist
        ((List.range' pre.length (c :: t).length).filter
          (standsAloneAt m.exporting (pre ++ c :: t))) := by
      rw [List.length_cons, List.range'_succ]
      exact (List.sublist_cons_self _ _).filter _
    cases skip with
    | succ skip => exact (ih' skip).trans hcons
    | zero =>
      cases hr : Prototype.read? m pre.getLast? (c :: t) with
      | none =>
        rw [matchesFrom, hr]
        exact (ih' 0).trans hcons
      | some q =>
        obtain ⟨p, tail⟩ := q
        have hpre : IsAscii pre := fun d hd => hascii d (List.mem_append_left _ hd)
        have halone := standsAloneAt_of_read? hm hpre hr
        rw [matchesFrom, hr, List.map_cons, List.length_cons, List.range'_succ,
          List.filter_cons_of_pos halone]
        exact (ih' _).cons_cons _

/-! ## 4. Occurrences that stand alone -/

/-- On ASCII characters the two tests of the neighbours of a marker are one. -/
theorem any_isNamePart_eq {o : Option Char} (h : ∀ c, o = some c → c.toNat < 0x80) :
    o.any isNamePart = o.any isIdent := by
  cases o with
  | none => rfl
  | some c => simp [isNamePart_eq_isIdent (h c rfl)]

/-- An occurrence stands alone iff the marker stands alone at its position. -/
theorem standsAlone_eq_standsAloneAt {marker pre t : Text} (hascii : IsAscii (pre ++ t))
    (hp : marker.isPrefixOf t = true) :
    Occurrence.standsAlone marker ⟨pre.length, pre.getLast?, t⟩ =
      standsAloneAt marker (pre ++ t) pre.length := by
  have hbefore : pre.getLast?.any isNamePart = pre.getLast?.any isIdent := by
    apply any_isNamePart_eq
    intro c hc
    exact hascii c (List.mem_append_left _ (List.mem_of_getLast? hc))
  have hafter : (t.drop marker.length).head?.any isNamePart =
      (t.drop marker.length).head?.any isIdent := by
    apply any_isNamePart_eq
    intro c hc
    exact hascii c (List.mem_append_right _ (List.mem_of_mem_drop (List.mem_of_head? hc)))
  rw [standsAloneAt_length, hp, Bool.true_and]
  unfold Occurrence.standsAlone
  rw [hbefore, hafter]

/-- The occurrences that stand alone are the positions where the marker stands alone.
    The characters to be skipped belong to an occurrence of the marker, so that an
    identifier character precedes each of them. -/
theorem starts_occurrencesFrom {marker : Text} (hm : IsIdentText marker) (pre t : Text)
    (skip : Nat) (hascii : IsAscii (pre ++ t))
    (hskip : 0 < skip → pre.getLast?.any isIdent = true ∧
      ∀ c ∈ t.take (skip - 1), isIdent c = true) :
    ((occurrencesFrom marker pre.length skip pre.getLast? t).filter
        (·.standsAlone marker)).map Occurrence.start =
      (List.range' pre.length t.length).filter (standsAloneAt marker (pre ++ t)) := by
  induction t generalizing pre skip with
  | nil => simp [occurrencesFrom]
  | cons c t ih =>
    have hsplit : pre ++ c :: t = (pre ++ [c]) ++ t := by simp
    have hlen : pre.length + 1 = (pre ++ [c]).length := by simp
    have hlast : some c = (pre ++ [c]).getLast? := by simp
    have ih' : ∀ skip, (0 < skip → isIdent c = true ∧ ∀ d ∈ t.take (skip - 1), isIdent d = true) →
        ((occurrencesFrom marker (pre.length + 1) skip (some c) t).filter
            (·.standsAlone marker)).map Occurrence.start =
          (List.range' (pre.length + 1) t.length).filter
            (standsAloneAt marker (pre ++ c :: t)) := by
      intro skip hs
      rw [hsplit, hlen, hlast]
      refine ih (pre ++ [c]) skip (by rwa [← hsplit]) ?_
      rw [← hlast]
      exact hs
    rw [List.length_cons, List.range'_succ]
    cases skip with
    | succ skip =>
      obtain ⟨hbefore, htake⟩ := hskip (Nat.succ_pos skip)
      have hnot : ¬ standsAloneAt marker (pre ++ c :: t) pre.length = true := by
        simp [standsAloneAt_length_of_isIdent hbefore]
      rw [occurrencesFrom, List.filter_cons_of_neg hnot]
      apply ih' skip
      intro hpos
      obtain ⟨k, rfl⟩ : ∃ k, skip = k + 1 := ⟨skip - 1, by omega⟩
      refine ⟨htake c (by simp), ?_⟩
      intro d hd
      exact htake d (List.mem_cons_of_mem _ hd)
    | zero =>
      by_cases hp : marker.isPrefixOf (c :: t) = true
      · -- an occurrence: what is skipped behind its first character is the marker's rest
        have hrest := ih' (marker.length - 1) (by
          intro _
          obtain ⟨r, hr⟩ := List.isPrefixOf_iff_prefix.1 hp
          cases marker with
          | nil => exact absurd rfl hm.1
          | cons e marker =>
            rw [List.cons_append, List.cons_eq_cons] at hr
            obtain ⟨rfl, rfl⟩ := hr
            refine ⟨hm.2 e (by simp), ?_⟩
            intro d hd
            rw [List.take_append_of_le_length (by simp)] at hd
            exact hm.2 d (List.mem_cons_of_mem _ (List.mem_of_mem_take hd)))
        have htest := standsAlone_eq_standsAloneAt hascii hp
        rw [occurrencesFrom, if_pos hp]
        by_cases ha : standsAloneAt marker (pre ++ c :: t) pre.length = true
        · rw [List.filter_cons_of_pos ha, List.filter_cons_of_pos (by rw [htest, ha]),
            List.map_cons, hrest]
        · rw [List.filter_cons_of_neg ha, List.filter_cons_of_neg (by rw [htest]; exact ha),
            hrest]
      · have hnot : ¬ standsAloneAt marker (pre ++ c :: t) pre.length = true := by
          rw [standsAloneAt_length]
          simp [hp]
        rw [occurrencesFrom, if_neg hp, List.filter_cons_of_neg hnot]
        exact ih' 0 (fun h => absurd h (Nat.lt_irrefl 0))

/-! ## 5. The balance -/

theorem length_filter_notMem_add_length {s l : List Nat} (h : s.Sublist l) (hl : l.Nodup) :
    (l.filter (· ∉ s)).length + s.length = l.length := by
  induction h with
  | slnil => rfl
  | @cons s l a h ih =>
    obtain ⟨ha, hl⟩ := List.nodup_cons.1 hl
    have has : a ∉ s := fun hm => ha (h.subset hm)
    rw [List.filter_cons_of_pos (by simpa using has), List.length_cons, List.length_cons,
      ← ih hl]
    omega
  | @cons_cons s l a h ih =>
    obtain ⟨ha, hl⟩ := List.nodup_cons.1 hl
    have hfilter : l.filter (· ∉ a :: s) = l.filter (· ∉ s) := by
      apply List.filter_congr
      intro b hb
      have hba : b ≠ a := by
        rintro rfl
        exact ha hb
      simp [hba]
    rw [List.filter_cons_of_neg (by simp), hfilter, List.length_cons, List.length_cons,
      ← ih hl]
    omega

/-- **The two scans leave nothing out.**  In an ASCII text the matches and the occurrences
    without a match are together as many as the positions where the marker stands alone. -/
theorem length_prototypes_add_length_unmatched {m : Markers} (hm : IsIdentText m.exporting)
    {t : Text} (hascii : IsAscii t) :
    (prototypes m t).length + (unmatched m (prototypes m t) t).length =
      (alonePositions m.exporting t).length := by
  have hsub : ((prototypes m t).map Match.start).Sublist (alonePositions m.exporting t) := by
    have := starts_matchesFrom_sublist hm [] t 0 hascii
    rwa [List.nil_append, List.length_nil, ← List.range_eq_range'] at this
  have hocc : ((occurrences m.exporting t).filter (·.standsAlone m.exporting)).map
      Occurrence.start = alonePositions m.exporting t := by
    have := starts_occurrencesFrom hm [] t 0 hascii (fun h => absurd h (Nat.lt_irrefl 0))
    rwa [List.nil_append, List.length_nil, ← List.range_eq_range'] at this
  have hun : (unmatched m (prototypes m t) t).map Occurrence.start =
      (alonePositions m.exporting t).filter (· ∉ (prototypes m t).map Match.start) := by
    rw [← hocc, List.filter_map, List.filter_filter]
    unfold unmatched
    congr 1
    apply List.filter_congr
    intro o _
    exact Bool.and_comm _ _
  have hnodup : (alonePositions m.exporting t).Nodup := List.nodup_range.filter _
  have hlen := congrArg List.length hun
  rw [List.length_map] at hlen
  have := length_filter_notMem_add_length hsub hnodup
  rw [List.length_map] at this
  omega

end Header

/-! ## 6. Functions, duplicates and unmatched declarations -/

/-- The functions and the duplicates are together as many as the matches. -/
theorem functions_add_duplicates (x : Conventions) (t : Text) :
    (x.findings t).declarations.functions.length + (x.findings t).declarations.duplicates =
      (Header.prototypes x.markers t).length := by
  have h := length_kept_add_duplicates (x.findings t).claims
  have hclaims : (x.findings t).claims.length = (Header.prototypes x.markers t).length := by
    simp [Conventions.findings, Conventions.claims, length_claimStems]
  rw [hclaims] at h
  exact h

theorem Header.isAscii_normalize {t : Text} (h : IsAscii t) : IsAscii (normalize t) := by
  intro c hc
  rcases mem_of_mem_normalize hc with hc | rfl | rfl
  · exact h c hc
  · decide
  · decide

theorem Markers.fault?_of_isIdentText {marker : Text} (h : IsIdentText marker) :
    fault? marker = none := by
  have hblank : ¬ marker.any isBlank = true := by
    rw [List.any_eq_true]
    rintro ⟨c, hc, hb⟩
    rw [isBlank_of_isIdent (h.2 c hc)] at hb
    cases hb
  rw [fault?, if_neg h.1, if_neg hblank]

theorem Conventions.ofMarkers_of_isIdentText {m : Markers} (he : IsIdentText m.exporting)
    (hc : IsIdentText m.calling) (stripPrefix : Text) :
    ofMarkers m stripPrefix = .ok ⟨m, stripPrefix⟩ := by
  rw [ofMarkers, Markers.error?, Markers.fault?_of_isIdentText he,
    Markers.fault?_of_isIdentText hc]
  rfl

/-- **Every export marker is accounted for.**  Markers of letters, digits and underscores
    are accepted, and in an ASCII header the functions, the duplicates and the unmatched
    declarations are together as many as the positions of the normal form where the
    export marker stands alone. -/
theorem functions_add_duplicates_add_unmatched {m : Markers}
    (he : IsIdentText m.exporting) (hc : IsIdentText m.calling) (stripPrefix : Text)
    {header : Text} (hascii : IsAscii header) :
    ∃ x, Conventions.ofMarkers m stripPrefix = .ok x ∧
      (x.extract header).declarations.functions.length +
          (x.extract header).declarations.duplicates +
          (x.extract header).declarations.unmatched =
        (Header.alonePositions m.exporting (Header.normalize header)).length := by
  refine ⟨⟨m, stripPrefix⟩, Conventions.ofMarkers_of_isIdentText he hc stripPrefix, ?_⟩
  rw [← Header.length_prototypes_add_length_unmatched he (Header.isAscii_normalize hascii)]
  have hfunctions := functions_add_duplicates ⟨m, stripPrefix⟩ (Header.normalize header)
  rw [← hfunctions]
  rfl

/-- A header with a function, a duplicate of it, and a callback prototype whose return
    type holds the export marker once more. -/
theorem functions_add_duplicates_add_unmatched_of_callback :
    IsIdentText ("EX" : Text) ∧ IsIdentText ("CALL" : Text) ∧
      IsAscii ("EX int CALL f(void); EX int CALL F(void);\nEX EX (*CALL g)(int);" : Text) ∧
      ∃ x, Conventions.ofMarkers ⟨"EX", "CALL"⟩ [] = .ok x ∧
        (x.extract "EX int CALL f(void); EX int CALL F(void);\nEX EX (*CALL g)(int);"
          ).declarations.functions.length +
          (x.extract "EX int CALL f(void); EX int CALL F(void);\nEX EX (*CALL g)(int);"
          ).declarations.duplicates +
          (x.extract "EX int CALL f(void); EX int CALL F(void);\nEX EX (*CALL g)(int);"
          ).declarations.unmatched =
        (Header.alonePositions "EX" (Header.normalize
          "EX int CALL f(void); EX int CALL F(void);\nEX EX (*CALL g)(int);")).length :=
  ⟨by decide, by decide, by decide,
    functions_add_duplicates_add_unmatched (m := ⟨"EX", "CALL"⟩) (by decide) (by decide) []
      (by decide)⟩

end HeaderBindings
