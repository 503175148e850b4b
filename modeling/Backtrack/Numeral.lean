import Backtrack.Text.Basic

/-!
# Numerals

Reading and writing whole numbers.  Digits are read from left to right against the
greatest magnitude that fits, so the first digit that is not one, or that makes the
number too great, decides the fault.
-/

namespace Backtrack.Numeral

/-! ## Writing -/

/-- A natural number in decimal digits. -/
def decimal (n : Nat) : Text := Nat.toDigits 10 n

/-- A whole number in decimal digits, a negative one after a minus sign. -/
def signed (n : Int) : Text :=
  if n < 0 then '-' :: decimal n.natAbs else decimal n.natAbs

/-! ## Reading -/

/-- Why a text is not a number of the signed 64-bit range. -/
inductive Fault where
  /-- There is nothing to read. -/
  | empty
  /-- A character is no digit of the base, or a sign stands alone. -/
  | invalidDigit
  /-- The number is above the range. -/
  | tooLarge
  /-- The number is below the range. -/
  | tooSmall
deriving DecidableEq, Repr

/-- The text that reports a fault. -/
def Fault.message : Fault → Text
  | empty => "cannot parse integer from empty string".toList
  | invalidDigit => "invalid digit found in string".toList
  | tooLarge => "number too large to fit in target type".toList
  | tooSmall => "number too small to fit in target type".toList

/-- The value of a character as a digit of base sixteen; letters count in both
cases. -/
def hexDigit? (c : Char) : Option Nat :=
  if '0' ≤ c ∧ c ≤ '9' then some (c.toNat - '0'.toNat)
  else if 'a' ≤ c ∧ c ≤ 'f' then some (c.toNat - 'a'.toNat + 10)
  else if 'A' ≤ c ∧ c ≤ 'F' then some (c.toNat - 'A'.toNat + 10)
  else none

/-- The value of a character as a digit of a base up to sixteen. -/
def digit? (base : Nat) (c : Char) : Option Nat :=
  (hexDigit? c).filter (· < base)

/-- Goes on reading digits after those worth `n`.  A magnitude above `limit` is the
fault `excess`. -/
def magnitude (base limit : Nat) (excess : Fault) : Nat → Text → Except Fault Nat
  | n, [] => .ok n
  | n, c :: t =>
    match digit? base c with
    | none => .error .invalidDigit
    | some d =>
      if n * base + d ≤ limit then magnitude base limit excess (n * base + d) t else .error excess

/-- Reads digits without a sign as a signed 64-bit number. -/
def readUnsigned (base : Nat) (t : Text) : Except Fault Int64 :=
  (magnitude base 0x7fffffffffffffff .tooLarge 0 t).map Int64.ofNat

/-- Reads a signed 64-bit number: an optional sign and one or more digits. -/
def read (base : Nat) : Text → Except Fault Int64
  | [] => .error .empty
  | ['+'] => .error .invalidDigit
  | ['-'] => .error .invalidDigit
  | '+' :: t => readUnsigned base t
  | '-' :: t =>
    (magnitude base 0x8000000000000000 .tooSmall 0 t).map fun n ↦ Int64.ofInt (-(n : Int))
  | t => readUnsigned base t

end Backtrack.Numeral
