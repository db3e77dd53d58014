import HeaderBindings.Text.Basic

/-!
# Sets of names

A set of names is kept as the list of its members in strictly increasing order of
code points, so that whatever is listed by name comes out in one order, however it
was collected.
-/

namespace HeaderBindings.Names

/-- Put a name into its place in an increasing list; a name that is there already
    changes nothing. -/
def insert (name : Text) : List Text → List Text
  | [] => [name]
  | n :: ns =>
    if name < n then name :: n :: ns
    else if name = n then n :: ns
    else n :: insert name ns

/-- The distinct names of a list, in increasing order. -/
def sorted (names : List Text) : List Text := names.foldr insert []

theorem mem_insert {x name : Text} {ns : List Text} :
    x ∈ insert name ns ↔ x = name ∨ x ∈ ns := by
  induction ns with
  | nil => simp [insert]
  | cons n ns ih =>
    unfold insert
    split
    · simp
    · split
      · rename_i h
        subst h
        simp
      · simp only [List.mem_cons, ih]
        grind

theorem mem_sorted {x : Text} {names : List Text} : x ∈ sorted names ↔ x ∈ names := by
  induction names with
  | nil => simp [sorted]
  | cons n ns ih =>
    have : sorted (n :: ns) = insert n (sorted ns) := rfl
    rw [this, mem_insert, ih, List.mem_cons]

end HeaderBindings.Names
