import HeaderBindings.Proofs.Artifact.UniqueNames

/-!
# How names are settled

Names are settled from left to right.  For each the loop begins with the name itself, and while
the candidate is taken it goes on to the next number behind the name (`Retries`).  The loop ends,
since one of any `n + 1` candidates is not among `n` names, and it ends with the name itself if
that is free and otherwise with the least number that makes it free (`IsSettled`).

What is taken are the names settled before, with their numbers, so that a number can clash with a
name that was given: of `arg0`, `arg0` and `arg0_2` the last becomes `arg0_2_2`.  Names that come
later never change what is settled (`isPrefix_unique_append`).
-/

namespace HeaderBindings.Artifact

/-! ## 1. One name -/

def numbered (base : Text) (n : Nat) : Text := base ++ "_" ++ Text.ofNat n

theorem suffixed_succ (base : Text) (k : Nat) : suffixed base (k + 1) = numbered base (k + 2) := rfl

/-- While a candidate is taken, the base with the next number is tried. -/
inductive Retries (taken : List Text) (base : Text) : Nat → Text → Text → Prop where
  | free {next : Nat} {candidate : Text} (h : candidate ∉ taken) :
      Retries taken base next candidate candidate
  | again {next : Nat} {candidate name : Text} (h : candidate ∈ taken)
      (rest : Retries taken base (next + 1) (numbered base next) name) :
      Retries taken base next candidate name

/-- The loop has one end at most. -/
theorem Retries.unique {taken : List Text} {base candidate a b : Text} {next : Nat}
    (ha : Retries taken base next candidate a) (hb : Retries taken base next candidate b) :
    a = b := by
  induction ha with
  | free h =>
    cases hb with
    | free _ => rfl
    | again htaken _ => exact absurd htaken h
  | again h _ ih =>
    cases hb with
    | free hfree => exact absurd h hfree
    | again _ rest => exact ih rest

/-- What becomes of a name: itself if it is free, or else itself with the least number, from 2 on,
    that makes it free. -/
inductive IsSettled (taken : List Text) (base : Text) : Text → Prop where
  | itself (h : base ∉ taken) : IsSettled taken base base
  | least {n : Nat} (h : base ∈ taken) (hn : 2 ≤ n) (hfree : numbered base n ∉ taken)
      (hleast : ∀ k, 2 ≤ k → k < n → numbered base k ∈ taken) :
      IsSettled taken base (numbered base n)

theorem IsSettled.congr {taken taken' : List Text} (htaken : ∀ x, x ∈ taken ↔ x ∈ taken')
    {base name : Text} (h : IsSettled taken base name) : IsSettled taken' base name := by
  cases h with
  | itself h => exact .itself (fun hmem => h ((htaken _).2 hmem))
  | least h hn hfree hleast =>
    exact .least ((htaken _).1 h) hn (fun hmem => hfree ((htaken _).2 hmem))
      (fun k hk hkn => (htaken _).1 (hleast k hk hkn))

/-- From any number up to the one that it ends with, the loop goes on to it. -/
theorem retries_numbered {taken : List Text} {base : Text} {n : Nat}
    (hfree : numbered base n ∉ taken) (steps : Nat) {k : Nat} (hk : k + steps = n)
    (hleast : ∀ j, k ≤ j → j < n → numbered base j ∈ taken) :
    Retries taken base (k + 1) (numbered base k) (numbered base n) := by
  induction steps generalizing k with
  | zero =>
    obtain rfl : k = n := hk
    exact .free hfree
  | succ steps ih =>
    refine .again (hleast k (Nat.le_refl k) (by omega)) (ih (by omega) ?_)
    intro j hj hjn
    exact hleast j (by omega) hjn

/-- **The loop ends with the settled name.** -/
theorem IsSettled.retries {taken : List Text} {base name : Text}
    (h : IsSettled taken base name) : Retries taken base 2 base name := by
  cases h with
  | itself h => exact .free h
  | @least n h hn hfree hleast =>
    exact .again h (retries_numbered hfree (n - 2) (by omega) hleast)

theorem IsSettled.retries_iff {taken : List Text} {base name : Text}
    (h : IsSettled taken base name) (other : Text) :
    Retries taken base 2 base other ↔ other = name := by
  constructor
  · intro hother
    exact hother.unique h.retries
  · rintro rfl
    exact h.retries

theorem isSettled_fresh (seen : List Text) (base : Text) :
    IsSettled seen base (fresh seen base) := by
  have hfree := fresh_notMem seen base
  have hleast : ∀ k < leastBelow (seen.length + 1) (fun k => suffixed base k ∉ seen),
      suffixed base k ∈ seen := by
    intro k hk
    simpa using not_passes_of_lt_leastBelow hk
  unfold fresh at hfree ⊢
  generalize leastBelow (seen.length + 1) (fun k => suffixed base k ∉ seen) = count at *
  cases count with
  | zero => exact .itself hfree
  | succ count =>
    refine .least (hleast 0 (Nat.succ_pos count)) (Nat.le_add_left 2 count) hfree ?_
    intro k hk hkn
    obtain ⟨k, rfl⟩ := Nat.exists_eq_add_of_le' hk
    rw [← suffixed_succ]
    exact hleast (k + 1) (by omega)

/-! ## 2. Whole lists -/

/-- **Each name is settled** against those that are settled before it. -/
theorem exists_isSettled_uniqueFrom (seen : List Text) {names : List Text} {i : Nat} {base : Text}
    (h : names[i]? = some base) :
    ∃ name, (uniqueFrom seen names)[i]? = some name ∧
      IsSettled ((uniqueFrom seen names).take i ++ seen) base name := by
  induction names generalizing seen i with
  | nil => cases h
  | cons first rest ih =>
    cases i with
    | zero =>
      obtain rfl := Option.some.inj h
      exact ⟨_, rfl, isSettled_fresh seen first⟩
    | succ i =>
      obtain ⟨name, hname, hsettled⟩ := ih (fresh seen first :: seen) h
      refine ⟨name, hname, hsettled.congr fun x => ?_⟩
      rw [uniqueFrom, List.take_succ_cons]
      simp only [List.mem_append, List.mem_cons, List.cons_append]
      exact or_left_comm

theorem isPrefix_uniqueFrom_append (seen names more : List Text) :
    uniqueFrom seen names <+: uniqueFrom seen (names ++ more) := by
  induction names generalizing seen with
  | nil => exact List.nil_prefix
  | cons first rest ih => exact List.cons_prefix_cons.2 ⟨rfl, ih _⟩

theorem isPrefix_unique_append (names more : List Text) :
    unique names <+: unique (names ++ more) :=
  isPrefix_uniqueFrom_append [] names more

/-! ## 3. Arguments -/

open Identifier

/-- **How arguments are named.**  Parameters with any names have as many arguments, with pairwise
    distinct names.  For each the loop ends, and in one way: with the escaped name if no earlier
    argument has it, and otherwise with the least number behind it that no earlier one has.
    Further parameters leave the names of the earlier ones alone. -/
theorem settled_argumentNames (ps : List Param) :
    (argumentNames ps).length = ps.length ∧ (argumentNames ps).Nodup ∧
      (∀ (i : Nat) (p : Param), ps[i]? = some p →
        ∃ name, (argumentNames ps)[i]? = some name ∧
          IsSettled ((argumentNames ps).take i) (escape p.name) name ∧
          ∀ other, Retries ((argumentNames ps).take i) (escape p.name) 2 (escape p.name) other ↔
            other = name) ∧
      ∀ more, argumentNames ps <+: argumentNames (ps ++ more) := by
  refine ⟨?_, nodup_unique _, ?_, ?_⟩
  · rw [argumentNames, length_unique, List.length_map]
  · intro i p hp
    have hbase : (ps.map fun p => escape p.name)[i]? = some (escape p.name) := by
      rw [List.getElem?_map, hp]
      rfl
    obtain ⟨name, hname, hsettled⟩ := exists_isSettled_uniqueFrom [] hbase
    rw [List.append_nil] at hsettled
    exact ⟨name, hname, hsettled, hsettled.retries_iff⟩
  · intro more
    rw [argumentNames, argumentNames, List.map_append]
    exact isPrefix_unique_append _ _

/-- Parameters of the given names. -/
def paramsNamed (names : List Text) : List Param :=
  names.map fun name => ⟨name, ⟨"int", 0, false⟩, .scalar .i32⟩

/-- A number that clashes with a given name, and two names that are escaped alike. -/
theorem settled_argumentNames_of_clashes :
    let ps := paramsNamed ["arg0", "arg0", "arg0_2", "self", "type", "self_"]
    argumentNames ps = [("arg0" : Text), "arg0_2", "arg0_2_2", "self_", "r#type", "self__2"] ∧
      IsSettled [("arg0" : Text), "arg0_2", "arg0_2_2", "self_", "r#type"] "self_" "self__2" ∧
      Retries [("arg0" : Text), "arg0_2"] "arg0_2" 2 "arg0_2" "arg0_2_2" := by
  intro ps
  have hnames : argumentNames ps =
      [("arg0" : Text), "arg0_2", "arg0_2_2", "self_", "r#type", "self__2"] := by
    decide
  obtain ⟨-, -, hsettled, -⟩ := settled_argumentNames ps
  obtain ⟨third, hthird, -, hretries⟩ := hsettled 2 _ rfl
  obtain ⟨last, hlast, hleast, -⟩ := hsettled 5 _ rfl
  rw [hnames] at hthird hlast hretries hleast
  obtain rfl := Option.some.inj hthird
  obtain rfl := Option.some.inj hlast
  exact ⟨hnames, hleast, (hretries _).2 rfl⟩

end HeaderBindings.Artifact
