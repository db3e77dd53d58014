import HeaderBindings.Parameter
import HeaderBindings.Proofs.Text.Collapse
import Mathlib.Data.List.Basic

/-!
# Cutting a text where it was joined

Generated lines are put together from parts.  Here are the cuts that take them apart
again: at the first or the last place of an element, at a beginning or an end that is
known, at every place of a pair of characters, behind the first place of a pair, and at the
line breaks.  Each cut comes with the condition under which it gives back the parts.
-/

namespace HeaderBindings

/-! ## 1. Cuts at one place -/

section
variable {α : Type} [DecidableEq α]

/-- What stands before the first place of an element, and what stands behind it. -/
def cutFirst? (x : α) : List α → Option (List α × List α)
  | [] => none
  | y :: rest =>
    if y = x then some ([], rest) else (cutFirst? x rest).map fun p => (y :: p.1, p.2)

/-- What stands before the last place of an element, and what stands behind it. -/
def cutLast? (x : α) (l : List α) : Option (List α × List α) :=
  (cutFirst? x l.reverse).map fun p => (p.2.reverse, p.1.reverse)

theorem cutFirst?_append {x : α} {a : List α} (ha : x ∉ a) (b : List α) :
    cutFirst? x (a ++ x :: b) = some (a, b) := by
  induction a with
  | nil => simp [cutFirst?]
  | cons y a ih =>
    have hne : y ≠ x := by
      rintro rfl
      exact ha List.mem_cons_self
    have hrest := ih fun hmem => ha (List.mem_cons_of_mem _ hmem)
    simp [cutFirst?, hne, hrest]

theorem cutLast?_append {x : α} {b : List α} (hb : x ∉ b) (a : List α) :
    cutLast? x (a ++ x :: b) = some (a, b) := by
  have hreverse : (a ++ x :: b).reverse = b.reverse ++ x :: a.reverse := by simp
  have hmem : x ∉ b.reverse := by simpa using hb
  simp [cutLast?, hreverse, cutFirst?_append hmem]

end

theorem isPrefixOf?_append (start t : Text) : start.isPrefixOf? (start ++ t) = some t :=
  List.isPrefixOf?_eq_some_iff_append_eq.2 rfl

theorem isSuffixOf?_append (ending t : Text) : ending.isSuffixOf? (t ++ ending) = some t :=
  List.isSuffixOf?_eq_some_iff_append_eq.2 rfl

namespace Text

/-! ## 2. Lists with a separator of two characters -/

/-- The pieces between the places of a pair of characters. -/
def splitPair (x y : Char) : Text → List Text
  | [] => [[]]
  | [c] => [[c]]
  | c :: d :: rest =>
    if c = x ∧ d = y then [] :: splitPair x y rest
    else ParameterList.extendFirst c (splitPair x y (d :: rest))

/-- The items of a list that is written with commas and spaces; an empty text lists
    nothing. -/
def items (t : Text) : List Text := if t = [] then [] else splitPair ',' ' ' t

theorem splitPair_eq_singleton {x y : Char} {p : Text} (hp : ¬ [x, y] <:+: p) :
    splitPair x y p = [p] := by
  induction p with
  | nil => rfl
  | cons c p ih =>
    have hrest : ¬ [x, y] <:+: p := fun h => hp (h.trans (List.suffix_cons c p).isInfix)
    cases p with
    | nil => rfl
    | cons d p =>
      have hpair : ¬ (c = x ∧ d = y) := by
        rintro ⟨rfl, rfl⟩
        exact hp (List.prefix_append [c, d] p).isInfix
      rw [splitPair, if_neg hpair, ih hrest]
      rfl

theorem splitPair_append {x y : Char} (hxy : x ≠ y) {p : Text} (hp : ¬ [x, y] <:+: p)
    (rest : Text) : splitPair x y (p ++ x :: y :: rest) = p :: splitPair x y rest := by
  induction p with
  | nil => simp [splitPair]
  | cons c p ih =>
    have hrest : ¬ [x, y] <:+: p := fun h => hp (h.trans (List.suffix_cons c p).isInfix)
    cases p with
    | nil =>
      have hpair : ¬ (c = x ∧ x = y) := fun h => hxy h.2
      rw [List.cons_append, List.nil_append, splitPair, if_neg hpair]
      have hnext : splitPair x y (x :: y :: rest) = [] :: splitPair x y rest := ih hrest
      rw [hnext]
      rfl
    | cons d p =>
      have hpair : ¬ (c = x ∧ d = y) := by
        rintro ⟨rfl, rfl⟩
        exact hp (List.prefix_append [c, d] p).isInfix
      rw [List.cons_append, List.cons_append, splitPair, if_neg hpair, ← List.cons_append,
        ih hrest]
      rfl

/-- Splitting takes apart what was joined with the pair, unless a part has it inside. -/
theorem splitPair_joinWith {x y : Char} (hxy : x ≠ y) {ps : List Text} (hne : ps ≠ [])
    (hps : ∀ p ∈ ps, ¬ [x, y] <:+: p) : splitPair x y (joinWith [x, y] ps) = ps := by
  induction ps with
  | nil => exact absurd rfl hne
  | cons p ps ih =>
    have hp := hps p List.mem_cons_self
    cases ps with
    | nil => rw [joinWith_singleton, splitPair_eq_singleton hp]
    | cons q qs =>
      have hrest := ih (by simp) fun r hr => hps r (List.mem_cons_of_mem _ hr)
      rw [joinWith_cons_cons, List.append_assoc]
      exact (splitPair_append hxy hp _).trans (congrArg (p :: ·) hrest)

theorem items_joinWith {ps : List Text} (hps : ∀ p ∈ ps, p ≠ [] ∧ ¬ [',', ' '] <:+: p) :
    items (joinWith ", " ps) = ps := by
  cases ps with
  | nil => rfl
  | cons p ps =>
    have hne : joinWith ", " (p :: ps) ≠ [] := by
      have hp := (hps p List.mem_cons_self).1
      cases ps with
      | nil => rwa [joinWith_singleton]
      | cons q qs => simp [joinWith_cons_cons, hp]
    unfold items
    rw [if_neg hne]
    exact splitPair_joinWith (by decide) (by simp) fun q hq => (hps q hq).2

theorem not_isInfix_of_notMem {w p : Text} {c : Char} (hc : c ∈ w) (h : c ∉ p) :
    ¬ w <:+: p := by
  intro hin
  exact h (hin.subset hc)

/-- A pair stands nowhere in two parts if its second character is not in the first part,
    its first character is not in the second part, and it does not stand across them. -/
theorem not_pair_isInfix_append {x y : Char} {a b : Text} (ha : y ∉ a) (hb : x ∉ b)
    (hlast : a.getLast? ≠ some x) : ¬ [x, y] <:+: a ++ b := by
  induction a with
  | nil => exact not_isInfix_of_notMem List.mem_cons_self hb
  | cons c a ih =>
    have hrest : y ∉ a := fun hmem => ha (List.mem_cons_of_mem _ hmem)
    intro h
    rcases List.infix_cons_iff.1 h with hstart | hin
    · obtain ⟨rfl, hnext⟩ := List.cons_prefix_cons.1 hstart
      cases a with
      | nil => exact hlast rfl
      | cons d a =>
        obtain ⟨rfl, -⟩ := List.cons_prefix_cons.1 hnext
        exact hrest List.mem_cons_self
    · refine ih hrest ?_ hin
      cases a with
      | nil => simp
      | cons d a => rwa [List.getLast?_cons_cons] at hlast

/-! ## 3. What stands behind a word -/

theorem after?_eq_none_iff {needle t : Text} : after? needle t = none ↔ ¬ needle <:+: t := by
  induction t with
  | nil => cases needle <;> simp [after?]
  | cons c t ih =>
    rw [after?, List.infix_cons_iff, not_or]
    cases hstart : needle.isPrefixOf? (c :: t) with
    | some rest =>
      have hneedle : needle <+: c :: t := ⟨rest, List.isPrefixOf?_eq_some_iff_append_eq.1 hstart⟩
      simp [hneedle]
    | none =>
      have hneedle : ¬ needle <+: c :: t := by
        rintro ⟨rest, hrest⟩
        rw [List.isPrefixOf?_eq_some_iff_append_eq.2 hrest] at hstart
        cases hstart
      simp only [ih, hneedle, not_false_eq_true, true_and]

/-- The text behind a pair of characters is what follows its first place. -/
theorem after?_pair_eq_some_iff {x y : Char} (hxy : x ≠ y) {t rest : Text} :
    after? [x, y] t = some rest ↔ ∃ a, t = a ++ x :: y :: rest ∧ ¬ [x, y] <:+: a := by
  constructor
  · induction t with
    | nil => nofun
    | cons c t ih =>
      rw [after?]
      cases hstart : [x, y].isPrefixOf? (c :: t) with
      | some tail =>
        intro h
        cases h
        exact ⟨[], (List.isPrefixOf?_eq_some_iff_append_eq.1 hstart).symm, by simp⟩
      | none =>
        intro h
        obtain ⟨a, rfl, ha⟩ := ih h
        refine ⟨c :: a, rfl, ?_⟩
        intro hin
        rcases List.infix_cons_iff.1 hin with hpair | hin
        · obtain ⟨u, hu⟩ := hpair.trans (List.prefix_append (c :: a) (x :: y :: rest))
          have hsome := List.isPrefixOf?_eq_some_iff_append_eq.2 hu
          rw [List.cons_append, hstart] at hsome
          cases hsome
        · exact ha hin
  · rintro ⟨a, rfl, ha⟩
    induction a with
    | nil =>
      rw [List.nil_append, after?]
      simp [List.isPrefixOf?]
    | cons c a ih =>
      have hrest : ¬ [x, y] <:+: a := fun h => ha (List.infix_cons_iff.2 (Or.inr h))
      have hpair : [x, y].isPrefixOf? (c :: (a ++ x :: y :: rest)) = none := by
        rw [Option.eq_none_iff_forall_ne_some]
        intro u hu
        have hcons : x :: y :: u = c :: (a ++ x :: y :: rest) :=
          List.isPrefixOf?_eq_some_iff_append_eq.1 hu
        obtain ⟨rfl, htail⟩ := List.cons_eq_cons.1 hcons
        cases a with
        | nil => exact hxy (List.cons_eq_cons.1 htail).1.symm
        | cons d a =>
          obtain ⟨rfl, -⟩ := List.cons_eq_cons.1 htail
          exact ha (List.prefix_append [x, y] a).isInfix
      rw [List.cons_append, after?, hpair]
      exact ih hrest

/-! ## 4. Lines -/

theorem unlines_cons (l : Text) (ls : List Text) :
    unlines (l :: ls) = l ++ '\n' :: unlines ls := by simp [unlines]

theorem lines_append_newline {l : Text} (h : '\n' ∉ l) (rest : Text) :
    lines (l ++ '\n' :: rest) = l :: lines rest := by
  induction l with
  | nil => simp [lines]
  | cons c l ih =>
    have hne : c ≠ '\n' := by
      rintro rfl
      exact h List.mem_cons_self
    have hrest := ih fun hmem => h (List.mem_cons_of_mem _ hmem)
    rw [List.cons_append, lines, if_neg hne, hrest]

/-- Lines that were written out are read again. -/
theorem lines_unlines {ls : List Text} (h : ∀ l ∈ ls, '\n' ∉ l) : lines (unlines ls) = ls := by
  induction ls with
  | nil => rfl
  | cons l ls ih =>
    rw [unlines_cons, lines_append_newline (h l List.mem_cons_self),
      ih fun m hm => h m (List.mem_cons_of_mem _ hm)]

/-- A text has no line break, or it is a line with a line break and a text behind it. -/
theorem lineInduction {motive : Text → Prop} (last : ∀ l, '\n' ∉ l → motive l)
    (line : ∀ l rest, '\n' ∉ l → motive rest → motive (l ++ '\n' :: rest)) (t : Text) :
    motive t := by
  by_cases h : '\n' ∈ t
  · obtain ⟨l, rest, ht, hl⟩ := List.eq_append_cons_of_mem h
    have hshorter : rest.length < t.length := by
      rw [ht, List.length_append, List.length_cons]
      omega
    rw [ht]
    exact line l rest hl (lineInduction last line rest)
  · exact last t h
termination_by t.length

theorem lines_append (a b : Text) :
    lines (a ++ '\n' :: b) = lines (a ++ "\n") ++ lines b := by
  induction a using lineInduction with
  | last l hl =>
    have hline : lines (l ++ "\n") = [l] := lines_append_newline hl []
    rw [lines_append_newline hl, hline, List.singleton_append]
  | line l rest hl ih =>
    rw [List.append_assoc, List.append_assoc, List.cons_append, List.cons_append,
      lines_append_newline hl, lines_append_newline hl, ih, List.cons_append]

/-- An ending without line breaks becomes the ending of the last line. -/
theorem exists_lines_ending (t : Text) {u : Text} (hu : '\n' ∉ u) :
    ∃ ls last, lines (t ++ "\n") = ls ++ [last] ∧
      lines (t ++ u ++ "\n") = ls ++ [last ++ u] := by
  induction t using lineInduction with
  | last l hl =>
    have hboth : '\n' ∉ l ++ u := fun h => (List.mem_append.1 h).elim hl hu
    exact ⟨[], l, lines_append_newline hl [], lines_append_newline hboth []⟩
  | line l rest hl ih =>
    obtain ⟨ls, last, hplain, hended⟩ := ih
    refine ⟨l :: ls, last, ?_, ?_⟩
    · rw [List.append_assoc, List.cons_append, lines_append_newline hl, hplain, List.cons_append]
    · rw [List.append_assoc, List.append_assoc, List.cons_append, lines_append_newline hl,
        ← List.append_assoc, hended, List.cons_append]

end Text

end HeaderBindings
