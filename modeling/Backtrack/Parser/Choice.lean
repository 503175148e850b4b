import Backtrack.Parser.Basic

/-!
# Choices

Alternatives are tried in order, each from where the choice started, and the first
that succeeds decides.  When none does, the cursor is put back and the failure keeps
every alternative's own failure.
-/

namespace Backtrack.Parser

variable {α : Type}

/-- Tries `p`, and when it fails `q`. -/
def orElse (p q : Parser α) : Parser α := do
  let start ← here
  p.handle fun e₁ ↦ do
    note (.firstFailed e₁)
    moveTo start
    q.handle fun e₂ ↦ failAt start (.exhausted start.rest [e₁, e₂])

theorem parse_orElse (p q : Parser α) (c : Cursor) :
    (p.orElse q).parse c = match p.parse c with
      | none => none
      | some ⟨.ok a, d, es⟩ => some ⟨.ok a, d, es⟩
      | some ⟨.error e₁, _, es⟩ =>
        match q.parse c with
        | none => none
        | some ⟨.ok a, d, fs⟩ => some ⟨.ok a, d, es ++ .firstFailed e₁ :: fs⟩
        | some ⟨.error e₂, _, fs⟩ =>
          some ⟨.error (.exhausted c.rest [e₁, e₂]), c, es ++ .firstFailed e₁ :: fs⟩ := by
  rw [orElse, parse_here_bind, parse_handle]
  rcases p.parse c with _ | ⟨e | a, d, es⟩
  · rfl
  · simp only [parse_note_bind, parse_moveTo_bind, parse_handle]
    rcases q.parse c with _ | ⟨e' | a, d', fs⟩ <;> simp
  · rfl

/-- Tries the alternatives from `start`, where the one at the head of the list has the
given index and those before it failed as listed. -/
def firstOf (start : Cursor) (index : Nat) (failed : List Failure) :
    List (Parser α) → Parser α
  | [] => failAt start (.exhausted start.rest failed)
  | p :: ps => do
    moveTo start
    p.handle fun e ↦ do
      note (.alternativeFailed index e)
      firstOf start (index + 1) (failed ++ [e]) ps

@[simp] theorem parse_firstOf_nil (start : Cursor) (index : Nat) (failed : List Failure)
    (c : Cursor) :
    (firstOf start index failed ([] : List (Parser α))).parse c =
      some ⟨.error (.exhausted start.rest failed), start, []⟩ := rfl

theorem parse_firstOf_cons (start : Cursor) (index : Nat) (failed : List Failure)
    (p : Parser α) (ps : List (Parser α)) (c : Cursor) :
    (firstOf start index failed (p :: ps)).parse c = match p.parse start with
      | none => none
      | some ⟨.ok a, d, es⟩ => some ⟨.ok a, d, es⟩
      | some ⟨.error e, d, es⟩ =>
        ((firstOf start (index + 1) (failed ++ [e]) ps).parse d).map
          (Reply.after (es ++ [.alternativeFailed index e])) := by
  rw [firstOf, parse_moveTo_bind, parse_handle]
  rcases p.parse start with _ | ⟨e | a, d, es⟩ <;> simp [Function.comp_def]

/-- Tries `first`, and then the others in order. -/
def choice (first : Parser α) (others : List (Parser α)) : Parser α := do
  let start ← here
  firstOf start 0 [] (first :: others)

theorem parse_choice (first : Parser α) (others : List (Parser α)) (c : Cursor) :
    (choice first others).parse c = (firstOf c 0 [] (first :: others)).parse c := by
  simp [choice]

end Backtrack.Parser
