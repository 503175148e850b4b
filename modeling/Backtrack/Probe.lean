import Backtrack.Cursor
import Backtrack.Value.Basic

/-!
# Probes

What can be asked of a cursor without moving it, with the answers as values.
-/

namespace Backtrack

/-- A question to a cursor. -/
inductive Probe where
  /-- How many bytes have been consumed. -/
  | position
  /-- The text that is left. -/
  | rest
  /-- The whole text. -/
  | source
  /-- Whether nothing is left. -/
  | atEnd
  /-- The next character, or the unit where none is left. -/
  | peek
  /-- The cursor written out. -/
  | description
deriving DecidableEq, Repr

/-- The answer of a cursor to a question. -/
def Probe.read : Probe → Cursor → Value
  | position, c => .int (Int64.ofNat c.position)
  | rest, c => .str c.rest
  | source, c => .str c.source
  | atEnd, c => .bool c.atEnd
  | peek, c => (c.peek.map Value.char).getD .unit
  | description, c => .str c.describe

end Backtrack
