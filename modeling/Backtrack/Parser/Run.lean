import Backtrack.Parser.Basic

/-!
# Running a parser

A run parses a text from its start and gives the value together with what is left.
Input that is left over is no failure.
-/

namespace Backtrack.Parser

variable {α : Type}

/-- The value of `p` with the rest of the text after it; notes how much was
consumed. -/
def withRest (p : Parser α) (size : Nat) : Parser (α × Text) := do
  let a ← p
  let stop ← here
  note (.consumed stop.position size)
  return (a, stop.rest)

/-- Parses `input` from its start. -/
def run (p : Parser α) (input : Text) : Option (Reply (α × Text)) :=
  (p.withRest input.byteSize).parse (Cursor.start input)

theorem run_eq (p : Parser α) (input : Text) :
    p.run input = match p.parse (Cursor.start input) with
      | none => none
      | some ⟨.ok a, d, es⟩ =>
        some ⟨.ok (a, d.rest), d, es ++ [.consumed d.position input.byteSize]⟩
      | some ⟨.error e, d, es⟩ => some ⟨.error e, d, es⟩ := by
  rw [run, withRest, parse_bind]
  rcases p.parse (Cursor.start input) with _ | ⟨_ | a, d, es⟩
  · rfl
  · rfl
  · simp only [parse_here_bind, parse_note_bind, parse_pure, Option.map_some, Reply.after_mk,
      List.append_nil]

end Backtrack.Parser
