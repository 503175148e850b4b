import Backtrack.Parser.Choice
import Backtrack.Parser.Transform
import Backtrack.Text.Class

/-!
# Characters, literals, runs and numbers

The parsers that look at the input themselves.  Each of them consumes what it matched
and, when it fails, nothing.
-/

namespace Backtrack.Parser

/-- The next character. -/
def anyChar : Parser Char := do
  let c ← here
  match c.peek with
  | none => fail .endOfInput
  | some ch => accept ch.utf8Size ch

theorem parse_anyChar (c : Cursor) :
    anyChar.parse c = match c.peek with
      | none => some ⟨.error .endOfInput, c, []⟩
      | some ch => some ⟨.ok ch, c.advance ch.utf8Size, []⟩ := by
  rw [anyChar, parse_here_bind]
  split <;> simp

/-- Exactly the expected text. -/
def literal (expected : Text) : Parser Unit := do
  let c ← here
  if expected.isPrefixOf c.rest then accept expected.byteSize ()
  else fail (.missingLiteral expected c.rest)

theorem parse_literal (expected : Text) (c : Cursor) :
    (literal expected).parse c = if expected.isPrefixOf c.rest
      then some ⟨.ok (), c.advance expected.byteSize, []⟩
      else some ⟨.error (.missingLiteral expected c.rest), c, []⟩ := by
  rw [literal, parse_here_bind]
  split <;> simp

/-- The longest run of accepted characters, which may be empty. -/
def span (accepts : Char → Bool) : Parser Text := do
  let c ← here
  let run : Text := c.rest.takeWhile accepts
  accept run.byteSize run

@[simp] theorem parse_span (accepts : Char → Bool) (c : Cursor) :
    (span accepts).parse c =
      some ⟨.ok (c.rest.takeWhile accepts),
        c.advance (Text.byteSize (c.rest.takeWhile accepts)), []⟩ := by
  simp [span]

/-- The longest run of numerals, as a signed 64-bit number.  It fails when the run is
empty, is too great, or has numerals other than the ten digits. -/
def integer : Parser Int64 := do
  let c ← here
  let digits : Text := c.rest.takeWhile Text.isNumeric
  match Numeral.read 10 digits with
  | .ok n => accept digits.byteSize n
  | .error _ => fail (.notNumber digits c.rest)

theorem parse_integer (c : Cursor) :
    integer.parse c = match Numeral.read 10 (c.rest.takeWhile Text.isNumeric) with
      | .ok n => some ⟨.ok n, c.advance (Text.byteSize (c.rest.takeWhile Text.isNumeric)), []⟩
      | .error _ => some ⟨.error (.notNumber (c.rest.takeWhile Text.isNumeric) c.rest), c, []⟩ := by
  rw [integer, parse_here_bind]
  dsimp only
  split <;> simp

/-- One of the four spellings of a truth value. -/
def boolean : Parser Bool :=
  orElse
    (map (orElse (literal "true".toList) (literal "True".toList)) fun _ ↦ true)
    (map (orElse (literal "false".toList) (literal "False".toList)) fun _ ↦ false)

end Backtrack.Parser
