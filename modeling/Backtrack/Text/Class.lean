import Backtrack.Text.Basic
import Backtrack.Text.Alphabetic
import Backtrack.Text.Blank
import Backtrack.Text.Numeric

/-!
# Character predicates

The predicates that pick the characters of a run.
-/

namespace Backtrack.Text

/-- A letter of any script. -/
def isAlphabetic (c : Char) : Bool := Ranges.alphabetic.covers c.toNat

/-- A digit or another numeral of any script. -/
def isNumeric (c : Char) : Bool := Ranges.numeric.covers c.toNat

/-- A letter or a numeral. -/
def isAlphanumeric (c : Char) : Bool := isAlphabetic c || isNumeric c

/-- A space, a line break or another blank. -/
def isBlank (c : Char) : Bool := Ranges.blank.covers c.toNat

/-- One of `0` to `9`. -/
def isAsciiDigit (c : Char) : Bool := '0' ≤ c && c ≤ '9'

/-- One of `0` to `9`, `a` to `f` and `A` to `F`. -/
def isAsciiHexDigit (c : Char) : Bool :=
  isAsciiDigit c || ('a' ≤ c && c ≤ 'f') || ('A' ≤ c && c ≤ 'F')

/-- One of `a` to `z` and `A` to `Z`. -/
def isAsciiAlphabetic (c : Char) : Bool := ('a' ≤ c && c ≤ 'z') || ('A' ≤ c && c ≤ 'Z')

/-- One of the characters of `t`. -/
def isOneOf (t : Text) (c : Char) : Bool := t.contains c

/-- None of the characters of `t`. -/
def isNoneOf (t : Text) (c : Char) : Bool := !t.contains c

/-! ## What the classes hold -/

theorem isAlphabetic_iff {c : Char} : isAlphabetic c = true ↔ Ranges.alphabetic.Holds c.toNat :=
  Ranges.covers_iff Ranges.ascendsFrom_alphabetic c.toNat

theorem isNumeric_iff {c : Char} : isNumeric c = true ↔ Ranges.numeric.Holds c.toNat :=
  Ranges.covers_iff Ranges.ascendsFrom_numeric c.toNat

theorem isBlank_iff {c : Char} : isBlank c = true ↔ Ranges.blank.Holds c.toNat :=
  Ranges.covers_iff Ranges.ascendsFrom_blank c.toNat

end Backtrack.Text
