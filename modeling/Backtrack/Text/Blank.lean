import Backtrack.Text.Ranges

/-!
# Blank characters

The ranges of the characters with the Unicode property *White_Space*, version 17.
-/

namespace Backtrack.Text.Ranges

/-- The characters with the property *White_Space*. -/
def blank : Ranges :=
  [(0x9, 0xD), (0x20, 0x20), (0x85, 0x85), (0xA0, 0xA0), (0x1680, 0x1680), (0x2000, 0x200A),
   (0x2028, 0x2029), (0x202F, 0x202F), (0x205F, 0x205F), (0x3000, 0x3000)]

/-- The ranges are in order, so looking a character up is exact. -/
theorem ascendsFrom_blank : ascendsFrom 0 blank = true := by decide +kernel

end Backtrack.Text.Ranges
