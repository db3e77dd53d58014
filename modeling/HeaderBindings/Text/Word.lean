import HeaderBindings.Text.Alphabetic
import HeaderBindings.Text.Latecomer
import HeaderBindings.Text.Mark
import HeaderBindings.Text.Numeral

/-!
# Word characters

Two classes decide where a name begins and ends.

* `isWord` is the class of the characters that names in a declaration are made of:
  alphabetic characters, marks, decimal digits, connectors and join controls, all
  but the latecomers among them.
* `isNamePart` is the class that keeps a marker from standing alone: alphanumeric
  characters and the underscore.

On ASCII characters the two agree (`isNamePart_eq_isWord`): letters, digits and the
underscore.  Beyond them they differ: a superscript two is a name part but no word
character, a combining acute accent is a word character but no name part, and the
latecomers that are letters are name parts only.
-/

namespace HeaderBindings

/-- The characters that names in a declaration are made of. -/
def isWord (c : Char) : Bool :=
  (isAlphabetic c || isDecimalDigit c || isConnector c || isMark c || isJoinControl c) &&
    !isLatecomer c

/-- Alphanumeric characters and the underscore. -/
def isNamePart (c : Char) : Bool :=
  isAlphabetic c || isDecimalDigit c || isOtherNumeral c || c == '_'

theorem isWord_of_ascii {c : Char} (h : c.toNat < 0x80) :
    isWord c = (c.isAlpha || c.isDigit || c == '_') := by
  have hj : isJoinControl c = false := by
    simp only [isJoinControl, Bool.or_eq_false_iff, beq_eq_false_iff_ne]
    omega
  simp [isWord, isAlphabetic_of_ascii h, isDecimalDigit_of_ascii h, isConnector_of_ascii h,
    isMark_of_ascii h, hj, isLatecomer_of_ascii h]

theorem isNamePart_eq_isWord {c : Char} (h : c.toNat < 0x80) : isNamePart c = isWord c := by
  rw [isWord_of_ascii h]
  simp [isNamePart, isAlphabetic_of_ascii h, isDecimalDigit_of_ascii h,
    isOtherNumeral_of_ascii h]

end HeaderBindings
