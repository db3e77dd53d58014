import HeaderBindings.Text.Basic

/-!
# Tables of code points

The properties of the Unicode standard are stored as tables of code point ranges.
A plain table lists closed intervals.  Where the members alternate with
characters of another class, as capital and small letters often do, a range also
has a step and holds every second code point.

All tables of this library begin above the ASCII characters, whose classes are
given by formulas beside each table; so a class of an ASCII character is decided
without consulting one.
-/

namespace HeaderBindings.CodePoints

/-- Is a code point in one of the closed intervals? -/
def inIntervals (n : Nat) (table : List (Nat × Nat)) : Bool :=
  table.any fun (first, last) => first ≤ n && n ≤ last

/-- The code points `first`, `first + step`, … up to `last`. -/
def inStride (n first last step : Nat) : Bool :=
  first ≤ n && n ≤ last && (n - first) % step == 0

def inStrides (n : Nat) (table : List (Nat × Nat × Nat)) : Bool :=
  table.any fun (first, last, step) => inStride n first last step

end HeaderBindings.CodePoints
