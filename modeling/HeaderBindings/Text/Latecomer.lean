import HeaderBindings.Text.CodePoints

/-!
# Latecomers

Two editions of the Unicode character database are in use.  The letters, digits and
marks that names are read by are those of edition 16.0; letter case, alphanumeric
characters and whatever else is asked of a character follow edition 17.0, which is the
edition of the tables of this library.

The difference is small, because edition 17.0 took nothing away: it is the set of the
*latecomers*, the characters of words that edition 17.0 brought in.
-/

namespace HeaderBindings

def latecomerIntervals : List (Nat × Nat) := [
  (0x88F, 0x88F), (0xC5C, 0xC5C), (0xCDC, 0xCDC), (0x1ACF, 0x1ADD), (0x1AE0, 0x1AEB),
  (0xA7CE, 0xA7CF), (0xA7D2, 0xA7D2), (0xA7D4, 0xA7D4), (0xA7F1, 0xA7F1), (0x10940, 0x10959),
  (0x10EC5, 0x10EC7), (0x10EFA, 0x10EFB), (0x11B60, 0x11B67), (0x11DB0, 0x11DDB),
  (0x11DE0, 0x11DE9), (0x16EA0, 0x16EB8), (0x16EBB, 0x16ED3), (0x16FF2, 0x16FF6),
  (0x187F8, 0x187FF), (0x18D09, 0x18D1E), (0x18D80, 0x18DF2), (0x1E6C0, 0x1E6DE),
  (0x1E6E0, 0x1E6F5), (0x1E6FE, 0x1E6FF), (0x2B73A, 0x2B73F), (0x2CEA2, 0x2CEAD),
  (0x323B0, 0x33479)]

/-- The letters, digits and marks that edition 17.0 brought in. -/
def isLatecomer (c : Char) : Bool := CodePoints.inIntervals c.toNat latecomerIntervals

theorem isLatecomer_of_ascii {c : Char} (h : c.toNat < 0x80) : isLatecomer c = false := by
  have key : ∀ p ∈ latecomerIntervals, 0x80 ≤ p.1 := by decide +kernel
  simp only [isLatecomer, CodePoints.inIntervals, List.any_eq_false]
  intro p hp
  have := key p hp
  simp only [Bool.and_eq_true, decide_eq_true_eq]
  omega

end HeaderBindings
