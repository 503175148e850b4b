import Backtrack.Value.Basic

/-!
# Tests of values

Each test is for some kinds of value and fails for all others.
-/

namespace Backtrack.Value

/-- A text or tuple that is not empty. -/
def nonEmpty : Value → Bool
  | str t => !t.isEmpty
  | tuple vs => !vs.isEmpty
  | _ => false

/-- An even number. -/
def isEven : Value → Bool
  | int n => n % 2 == 0
  | _ => false

/-- A number above `n`. -/
def exceeds (n : Int64) : Value → Bool
  | int m => n < m
  | _ => false

/-- A character that is accepted, or a text with no other characters. -/
def allChars (accepts : Char → Bool) : Value → Bool
  | char c => accepts c
  | str t => t.all accepts
  | _ => false

/-- A text of at most `n` bytes. -/
def atMostBytes (n : Nat) : Value → Bool
  | str t => t.byteSize ≤ n
  | _ => false

end Backtrack.Value
