import Backtrack.Value.Basic

/-!
# Transformations of values

Functions from values to values.  A function that asks for another kind of value gives
the value back as it is.
-/

namespace Backtrack.Value

/-- A number times `n`, as a signed 64-bit number. -/
def times (n : Int64) : Value → Value
  | int m => int (m * n)
  | v => v

/-- A number plus `n`, as a signed 64-bit number. -/
def plus (n : Int64) : Value → Value
  | int m => int (m + n)
  | v => v

/-- The item of a tuple with index `n`, if it has one. -/
def item (n : Nat) : Value → Value
  | tuple vs => vs[n]?.getD (tuple vs)
  | v => v

/-- A character or text with its ASCII letters in upper case. -/
def upperCase : Value → Value
  | char c => char c.toUpper
  | str t => str (t.map Char.toUpper)
  | v => v

/-- The number of bytes of a text. -/
def byteCount : Value → Value
  | str t => int (Int64.ofNat t.byteSize)
  | v => v

/-- The number of characters of a text. -/
def charCount : Value → Value
  | str t => int (Int64.ofNat t.length)
  | v => v

/-- The text of a value, as a value. -/
def written (v : Value) : Value := str v.text

/-- The text of a value between two others. -/
def wrapped (left right : Text) (v : Value) : Value := str (left ++ v.text ++ right)

/-- The leaves of a value as one tuple. -/
def flattened (v : Value) : Value := tuple v.leaves

end Backtrack.Value
