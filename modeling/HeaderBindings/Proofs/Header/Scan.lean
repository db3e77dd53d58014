import HeaderBindings.Proofs.Header.Grammar

/-!
# Which prototypes are found

The grammar of prototypes says where one stands in a text and how far it reaches
(`StandsAt`).  Several may stand at one place, since a type can hold call markers; the one
with the shortest type is meant (`IsShortestAt`).

A scan takes the least place at or behind a bound where something is read, and goes on from
its end (`IsScan`).  `isScan_prototypes_iff` says that `prototypes` lists the scan of a text
by its grammar and nothing else.
-/

namespace HeaderBindings.Header

/-! ## 1. Scans -/

/-- The prototypes that a scan finds from `start` on, where `reads place p stop` says that
    `p` is read at `place` and reaches up to `stop`. -/
inductive IsScan (reads : Nat → Prototype → Nat → Prop) : Nat → List Match → Prop where
  /-- Nothing is read any more. -/
  | done {start : Nat} (hnone : ∀ place p stop, start ≤ place → ¬ reads place p stop) :
      IsScan reads start []
  /-- The first place where something is read, and what is found behind that. -/
  | next {start place stop : Nat} {p : Prototype} {ms : List Match} (hstart : start ≤ place)
      (hreads : reads place p stop)
      (hleast : ∀ earlier q e, start ≤ earlier → earlier < place → ¬ reads earlier q e)
      (hrest : IsScan reads stop ms) : IsScan reads start (⟨place, p⟩ :: ms)

namespace IsScan

variable {reads : Nat → Prototype → Nat → Prop} {start : Nat} {ms ns : List Match}

/-- If one thing at most is read at each place, there is one scan only. -/
theorem unique (hms : IsScan reads start ms) (hns : IsScan reads start ns)
    (hreads : ∀ place p q stop e, reads place p stop → reads place q e → p = q ∧ stop = e) :
    ms = ns := by
  induction hms generalizing ns with
  | done hnone =>
    cases hns with
    | done _ => rfl
    | next hstart hread _ _ => exact absurd hread (hnone _ _ _ hstart)
  | @next _ place stop p ms hstart hread hleast _ ih =>
    cases hns with
    | done hnone => exact absurd hread (hnone _ _ _ hstart)
    | @next _ place' _ _ _ hstart' hread' hleast' hrest' =>
      have hplace : place = place' := by
        rcases Nat.lt_trichotomy place place' with hlt | heq | hlt
        · exact absurd hread (hleast' _ _ _ hstart hlt)
        · exact heq
        · exact absurd hread' (hleast _ _ _ hstart' hlt)
      subst hplace
      obtain ⟨rfl, rfl⟩ := hreads _ _ _ _ _ hread hread'
      rw [ih hrest']

/-- A scan may begin at a place where nothing is read. -/
theorem of_succ (hnone : ∀ p stop, ¬ reads start p stop) (hms : IsScan reads (start + 1) ms) :
    IsScan reads start ms := by
  have hlater : ∀ {place p stop}, start ≤ place → reads place p stop → start + 1 ≤ place := by
    intro place p stop hle hread
    refine Nat.lt_of_le_of_ne hle ?_
    rintro rfl
    exact hnone p stop hread
  cases hms with
  | done hbehind =>
    exact done fun place p stop hle hread => hbehind place p stop (hlater hle hread) hread
  | next hstart hread hleast hrest =>
    refine next (Nat.le_of_succ_le hstart) hread ?_ hrest
    intro earlier q e hle hlt hearlier
    exact hleast earlier q e (hlater hle hearlier) hlt hearlier

end IsScan

/-! ## 2. The grammar at a place -/

/-- A prototype as it is written, with gaps in front of the opening parenthesis and the
    semicolon. -/
def Prototype.written (m : Markers) (p : Prototype) (s₁ s₂ : Text) : Text :=
  m.exporting ++ ' ' :: (p.returnText ++ ' ' :: (m.calling ++ ' ' :: (p.name ++ (s₁ ++ '(' ::
    (p.paramText ++ ')' :: (s₂ ++ [';']))))))

/-- The texts that a prototype can be made of.  Where it is written, its name is a maximal
    run of word characters: a space stands in front of it, and a space or a parenthesis
    behind it. -/
structure Prototype.IsGrammatical (p : Prototype) : Prop where
  type_ne_nil : p.returnText ≠ []
  type_goes_on : ∀ c ∈ p.returnText, endsType c = false
  name : IsName p.name
  params : ')' ∉ p.paramText

/-- At a word boundary of the text, a prototype is written from `place` up to `stop`. -/
def StandsAt (m : Markers) (t : Text) (place : Nat) (p : Prototype) (stop : Nat) : Prop :=
  ∃ before s₁ s₂ after, IsGap s₁ ∧ IsGap s₂ ∧ p.IsGrammatical ∧
    t = before ++ (p.written m s₁ s₂ ++ after) ∧
    place = before.length ∧ stop = place + (p.written m s₁ s₂).length ∧
    Prototype.isBoundary before.getLast? (p.written m s₁ s₂).head? = true

/-- Of the prototypes that stand at a place, the one with the shortest type. -/
def IsShortestAt (m : Markers) (t : Text) (place : Nat) (p : Prototype) (stop : Nat) : Prop :=
  StandsAt m t place p stop ∧
    ∀ q e, StandsAt m t place q e → p.returnText.length ≤ q.returnText.length

variable {m : Markers}

theorem Prototype.written_ne_nil (m : Markers) (p : Prototype) (s₁ s₂ : Text) :
    p.written m s₁ s₂ ≠ [] := by
  simp [written]

theorem Prototype.written_append (m : Markers) (p : Prototype) (s₁ s₂ after : Text) :
    p.written m s₁ s₂ ++ after =
      m.exporting ++ ' ' :: (p.returnText ++ ' ' :: (m.calling ++ ' ' :: (p.name ++ (s₁ ++ '(' ::
        (p.paramText ++ ')' :: (s₂ ++ ';' :: after)))))) := by
  simp [written]

theorem StandsAt.exists_eq_append {t : Text} {place stop : Nat} {p : Prototype}
    (h : StandsAt m t place p stop) : ∃ before u, t = before ++ u ∧ place = before.length := by
  obtain ⟨before, _, _, _, -, -, -, rfl, rfl, -⟩ := h
  exact ⟨before, _, rfl, rfl⟩

theorem StandsAt.lt_stop {t : Text} {place stop : Nat} {p : Prototype}
    (h : StandsAt m t place p stop) : place < stop := by
  obtain ⟨_, s₁, s₂, _, -, -, -, -, -, rfl, -⟩ := h
  have := List.length_pos_iff.2 (p.written_ne_nil m s₁ s₂)
  omega

theorem StandsAt.stop_le {t : Text} {place stop : Nat} {p : Prototype}
    (h : StandsAt m t place p stop) : stop ≤ t.length := by
  obtain ⟨before, s₁, s₂, after, -, -, -, rfl, rfl, rfl, -⟩ := h
  simp only [List.length_append]
  omega

/-- What stands at a place, in the terms of the readers: a type without one of the
    characters that end it, and behind it what `declared?` reads. -/
theorem standsAt_length_iff {pre u : Text} {p : Prototype} {stop : Nat} :
    StandsAt m (pre ++ u) pre.length p stop ↔
      Prototype.isBoundary pre.getLast? u.head? = true ∧
        ∃ v after, u = m.exporting ++ ' ' :: (p.returnText ++ v) ∧ p.returnText ≠ [] ∧
          (∀ c ∈ p.returnText, Prototype.endsType c = false) ∧
          Prototype.declared? m.calling v = some (⟨p.name, p.paramText⟩, after) ∧
          stop + after.length = (pre ++ u).length := by
  constructor
  · rintro ⟨before, s₁, s₂, after, hs₁, hs₂, ⟨hne, htype, hname, hparams⟩, ht, hplace, rfl,
      hboundary⟩
    obtain ⟨rfl, rfl⟩ := List.append_inj ht hplace
    rw [List.head?_append_of_ne_nil _ (p.written_ne_nil m s₁ s₂)]
    refine ⟨hboundary, _, after, p.written_append m s₁ s₂ after, hne, htype,
      Prototype.declared?_eq_some_iff.2 ⟨s₁, s₂, hs₁, hs₂, hname, hparams, rfl⟩, ?_⟩
    simp only [List.length_append]
    omega
  · rintro ⟨hboundary, v, after, rfl, hne, htype, hdeclared, hstop⟩
    obtain ⟨s₁, s₂, hs₁, hs₂, hname, hparams, rfl⟩ :=
      Prototype.declared?_eq_some_iff.1 hdeclared
    rw [← p.written_append m s₁ s₂ after] at hboundary hstop ⊢
    refine ⟨pre, s₁, s₂, after, hs₁, hs₂, ⟨hne, htype, hname, hparams⟩, rfl, rfl, ?_, ?_⟩
    · simp only [List.length_append] at hstop
      omega
    · rw [← List.head?_append_of_ne_nil _ (p.written_ne_nil m s₁ s₂)]
      exact hboundary

/-! ## 3. Reading by the grammar -/

theorem StandsAt.exists_isShortestAt {t : Text} {place stop : Nat} {p : Prototype}
    (h : StandsAt m t place p stop) : ∃ q e, IsShortestAt m t place q e := by
  induction hn : p.returnText.length using Nat.strongRecOn generalizing p stop with
  | ind n ih =>
    by_cases hleast : ∀ q e, StandsAt m t place q e → p.returnText.length ≤ q.returnText.length
    · exact ⟨p, stop, h, hleast⟩
    · simp only [not_forall, Nat.not_le] at hleast
      obtain ⟨q, e, hq, hlt⟩ := hleast
      exact ih _ (hn ▸ hlt) hq rfl

theorem Prototype.length_le_of_declared? {calling t rest : Text} {d : Declared}
    (h : declared? calling t = some (d, rest)) : rest.length ≤ t.length := by
  obtain ⟨s₁, s₂, -, -, -, -, rfl⟩ := declared?_eq_some_iff.1 h
  simp only [List.length_append, List.length_cons]
  omega

theorem Prototype.length_lt_of_read? {before : Option Char} {t rest : Text} {p : Prototype}
    (h : read? m before t = some (p, rest)) : rest.length < t.length := by
  obtain ⟨-, u, rfl, hbody⟩ := read?_eq_some_iff.1 h
  obtain ⟨v, rfl, -, hdeclared⟩ := body?_eq_some_iff.1 hbody
  have hle := length_le_of_declared? hdeclared
  simp only [List.length_append, List.length_cons]
  omega

/-- **The reader reads by the grammar.**  It finds the prototype with the shortest type of
    those that stand where it begins. -/
theorem isShortestAt_length_iff {pre u : Text} {p : Prototype} {stop : Nat} :
    IsShortestAt m (pre ++ u) pre.length p stop ↔
      ∃ after, Prototype.read? m pre.getLast? u = some (p, after) ∧
        stop + after.length = (pre ++ u).length := by
  constructor
  · rintro ⟨hstands, hshortest⟩
    obtain ⟨hboundary, v, after, rfl, hne, htype, hdeclared, hstop⟩ :=
      standsAt_length_iff.1 hstands
    refine ⟨after, Prototype.read?_eq_some_iff.2 ⟨hboundary, _, rfl, ?_⟩, hstop⟩
    refine Prototype.body?_eq_some_iff.2 ⟨v, rfl, ⟨hne, htype, ?_⟩, hdeclared⟩
    -- a shorter type would stand there too
    intro a b ha hb hab
    rw [Option.eq_none_iff_forall_ne_some]
    rintro ⟨⟨name, params⟩, tail⟩ hshorter
    have hle := Prototype.length_le_of_declared? hshorter
    have hlength : p.returnText.length ≤ a.length := by
      refine hshortest ⟨a, name, params⟩ _ (standsAt_length_iff.2
        ⟨hboundary, b ++ v, tail, ?_, ha, ?_, hshorter, Nat.sub_add_cancel ?_⟩)
      · rw [hab, List.append_assoc]
      · intro c hc
        exact htype c (hab ▸ List.mem_append_left b hc)
      · rw [hab, List.append_assoc]
        simp only [List.length_append, List.length_cons] at hle ⊢
        omega
    have hpos := List.length_pos_iff.2 hb
    rw [hab, List.length_append] at hlength
    omega
  · rintro ⟨after, hread, hstop⟩
    obtain ⟨hboundary, w, rfl, hbody⟩ := Prototype.read?_eq_some_iff.1 hread
    obtain ⟨v, rfl, hret, hdeclared⟩ := Prototype.body?_eq_some_iff.1 hbody
    refine ⟨standsAt_length_iff.2
      ⟨hboundary, v, after, rfl, hret.ne_nil, hret.goes_on, hdeclared, hstop⟩, ?_⟩
    intro q e hq
    obtain ⟨-, v', after', heq, hne, -, hdeclared', -⟩ := standsAt_length_iff.1 hq
    have heq := (List.cons_eq_cons.1 (List.append_cancel_left heq)).2
    by_contra hlt
    obtain ⟨b, hb, rfl⟩ : ∃ b, p.returnText = q.returnText ++ b ∧ v' = b ++ v := by
      rcases List.append_eq_append_iff.1 heq with ⟨b, hq, -⟩ | ⟨b, hp, hv'⟩
      · rw [hq, List.length_append] at hlt
        omega
      · exact ⟨b, hp, hv'⟩
    have hbne : b ≠ [] := by
      rintro rfl
      rw [hb, List.append_nil] at hlt
      omega
    rw [hret.shortest _ b hne hbne hb] at hdeclared'
    cases hdeclared'

theorem read?_eq_none_iff {pre u : Text} :
    Prototype.read? m pre.getLast? u = none ↔
      ∀ p stop, ¬ StandsAt m (pre ++ u) pre.length p stop := by
  constructor
  · intro hnone p stop hstands
    obtain ⟨q, e, hq⟩ := hstands.exists_isShortestAt
    obtain ⟨after, hread, -⟩ := isShortestAt_length_iff.1 hq
    rw [hnone] at hread
    cases hread
  · intro hnone
    rw [Option.eq_none_iff_forall_ne_some]
    rintro ⟨p, after⟩ hread
    have hle := Prototype.length_lt_of_read? hread
    refine hnone p ((pre ++ u).length - after.length)
      (isShortestAt_length_iff.2 ⟨after, hread, Nat.sub_add_cancel ?_⟩).1
    rw [List.length_append]
    omega

/-! ## 4. The scan of a text -/

theorem IsShortestAt.unique {t : Text} {place stop e : Nat} {p q : Prototype}
    (hp : IsShortestAt m t place p stop) (hq : IsShortestAt m t place q e) :
    p = q ∧ stop = e := by
  obtain ⟨before, u, rfl, rfl⟩ := hp.1.exists_eq_append
  obtain ⟨after, hread, hstop⟩ := isShortestAt_length_iff.1 hp
  obtain ⟨after', hread', he⟩ := isShortestAt_length_iff.1 hq
  rw [hread] at hread'
  cases hread'
  exact ⟨rfl, by omega⟩

theorem isScan_matchesFrom (pre u : Text) (skip : Nat) :
    IsScan (IsShortestAt m (pre ++ u)) (pre.length + skip)
      (matchesFrom m pre.length skip pre.getLast? u) := by
  induction u generalizing pre skip with
  | nil =>
    refine IsScan.done ?_
    intro place p stop hle hread
    have hlt := hread.1.lt_stop
    have hstop := hread.1.stop_le
    rw [List.append_nil] at hstop
    omega
  | cons c u ih =>
    have htext : pre ++ c :: u = pre ++ [c] ++ u := by simp
    have hlength : (pre ++ [c]).length = pre.length + 1 := by simp
    have ih' : ∀ skip, IsScan (IsShortestAt m (pre ++ c :: u)) (pre.length + 1 + skip)
        (matchesFrom m (pre.length + 1) skip (some c) u) := by
      intro skip
      have h := ih (pre ++ [c]) skip
      rw [← htext, hlength, List.getLast?_concat] at h
      exact h
    cases skip with
    | succ skip =>
      rw [matchesFrom, Nat.add_succ, ← Nat.succ_add]
      exact ih' skip
    | zero =>
      cases hread : Prototype.read? m pre.getLast? (c :: u) with
      | none =>
        rw [matchesFrom, hread]
        refine IsScan.of_succ ?_ (ih' 0)
        intro p stop hp
        exact read?_eq_none_iff.1 hread p stop hp.1
      | some found =>
        obtain ⟨p, after⟩ := found
        have hlt := Prototype.length_lt_of_read? hread
        have hstop : pre.length + 1 + (u.length - after.length) + after.length =
            (pre ++ c :: u).length := by
          simp only [List.length_append, List.length_cons] at hlt ⊢
          omega
        rw [matchesFrom, hread]
        refine IsScan.next (Nat.le_refl _)
          (isShortestAt_length_iff.2 ⟨after, hread, hstop⟩) ?_ (ih' _)
        intro earlier q e hle hlt
        omega

/-- **What is found is the scan by the grammar.**  In every text the matches are the
    prototypes with the shortest types at the least places where one stands, each at or
    behind the end of the one before, until none stands any more. -/
theorem isScan_prototypes_iff {t : Text} {ms : List Match} :
    IsScan (IsShortestAt m t) 0 ms ↔ ms = prototypes m t := by
  have hscan : IsScan (IsShortestAt m t) 0 (prototypes m t) := isScan_matchesFrom [] t 0
  constructor
  · intro h
    exact h.unique hscan fun _ _ _ _ _ => IsShortestAt.unique
  · rintro rfl
    exact hscan

/-- The first call marker is not the one that counts if no name and parameters follow it. -/
example : prototypes ⟨"EX", "CALL"⟩ "EX int CALL x CALL f(void); EX int CALL g;" =
    [⟨0, "int CALL x", "f", "void"⟩] := by
  decide +kernel

end HeaderBindings.Header
