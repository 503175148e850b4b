import Backtrack.Numeral
import Backtrack.Text.Quoted

/-!
# Cursors

A cursor is a position in a text.  What has not been consumed yet is the text from
that position on.  Every cursor that comes from `Cursor.start` by `Cursor.advance`
stands between two characters of its text, or at one of its ends (`WellFormed`).
-/

namespace Backtrack

/-- A position in a text. -/
@[ext]
structure Cursor where
  /-- The whole text. -/
  source : Text
  /-- How many bytes of the text have been consumed. -/
  position : Nat
deriving DecidableEq, Repr

namespace Cursor

/-- The cursor at the start of a text. -/
def start (t : Text) : Cursor := ⟨t, 0⟩

@[simp] theorem source_start (t : Text) : (start t).source = t := rfl

@[simp] theorem position_start (t : Text) : (start t).position = 0 := rfl

/-- The text that has not been consumed yet. -/
def rest (c : Cursor) : Text := c.source.dropBytes c.position

@[simp] theorem rest_start (t : Text) : (start t).rest = t := Text.dropBytes_zero t

/-- Whether nothing is left to consume. -/
def atEnd (c : Cursor) : Bool := c.source.byteSize ≤ c.position

/-- The next character, if one is left. -/
def peek (c : Cursor) : Option Char := c.rest.head?

/-- The greatest position that a cursor can count to. -/
def positionLimit : Nat := 0xffffffffffffffff

/-- Consumes `n` bytes: stops at the end of the text, and a count that ends inside a
character goes on to the end of that character. -/
def advance (c : Cursor) (n : Nat) : Cursor :=
  { c with position := c.source.ceilBoundary (min (c.position + n) positionLimit) }

@[simp] theorem source_advance (c : Cursor) (n : Nat) : (c.advance n).source = c.source := rfl

/-- A cursor that stands at a boundary of a text that fits in memory. -/
structure WellFormed (c : Cursor) : Prop where
  /-- The position is a boundary of the text. -/
  boundary : c.source.IsBoundary c.position
  /-- The text fits in memory. -/
  addressable : c.source.Addressable

/-- The start of a text is a boundary. -/
theorem wellFormed_start {t : Text} (h : t.Addressable) : (start t).WellFormed :=
  ⟨Text.isBoundary_zero t, h⟩

/-- Advancing ends at a boundary, wherever it started. -/
theorem WellFormed.advance {c : Cursor} (h : c.WellFormed) (n : Nat) :
    (c.advance n).WellFormed :=
  ⟨Text.isBoundary_ceilBoundary _ _, h.addressable⟩

/-- A cursor written out with its text and its position. -/
def describe (c : Cursor) : Text :=
  "Cursor \x7b source: ".toList ++ c.source.quoted ++ ", position: ".toList ++
    Numeral.decimal c.position ++ " \x7d".toList

end Cursor

end Backtrack
