import Backtrack.Value.Basic

/-!
# Conversions of values

Functions from values to values that can refuse, with the text of their reason.  Each
is for one kind of value and refuses all others as a mismatch.
-/

namespace Backtrack.Value

/-- The reason against a value of another kind. -/
def mismatch : Text := "type mismatch".toList

/-- A number from 0 to 255. -/
def toByte : Value → Except Text Value
  | int n =>
    if n < 0 then .error Numeral.Fault.tooSmall.message
    else if 255 < n then .error Numeral.Fault.tooLarge.message
    else .ok (int n)
  | _ => .error mismatch

/-- The signed 64-bit number that a text is in the given base. -/
def toInt (base : Nat) : Value → Except Text Value
  | str t =>
    match Numeral.read base t with
    | .ok n => .ok (int n)
    | .error fault => .error fault.message
  | _ => .error mismatch

/-- The truth value that a text spells. -/
def toBool : Value → Except Text Value
  | str t =>
    if t = "true".toList then .ok (bool true)
    else if t = "false".toList then .ok (bool false)
    else .error "provided string was not `true` or `false`".toList
  | _ => .error mismatch

/-- The only character of a text. -/
def toChar : Value → Except Text Value
  | str [] => .error "cannot parse char from empty string".toList
  | str [c] => .ok (char c)
  | str (_ :: _ :: _) => .error "too many characters in string".toList
  | _ => .error mismatch

end Backtrack.Value
