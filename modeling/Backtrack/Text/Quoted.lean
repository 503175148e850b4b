import Backtrack.Text.Basic
import Backtrack.Text.Escaped

/-!
# Quoted texts

A quoted text stands between double quotes.  Quotes and backslashes inside it are
marked by a backslash, four control characters have a short form, and every other
character that cannot be seen is written by its number.
-/

namespace Backtrack.Text

/-- A code point in lower-case hexadecimal digits, as a quoted text writes it. -/
def numbered (n : Nat) : Text := "\\u\x7b".toList ++ Nat.toDigits 16 n ++ "\x7d".toList

/-- One character inside a quoted text. -/
def escape (c : Char) : Text :=
  match c with
  | '"' => ['\\', '"']
  | '\\' => ['\\', '\\']
  | '\t' => ['\\', 't']
  | '\n' => ['\\', 'n']
  | '\r' => ['\\', 'r']
  | '\x00' => ['\\', '0']
  | c => if Ranges.escaped.covers c.toNat then numbered c.toNat else [c]

/-- The text between double quotes, with its characters escaped. -/
def quoted (t : Text) : Text := '"' :: (t.flatMap escape ++ ['"'])

end Backtrack.Text
