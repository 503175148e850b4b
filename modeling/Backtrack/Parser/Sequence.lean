import Backtrack.Parser.Transform

/-!
# Sequences

Several parsers, one after the other.  A sequence is one unit: when a later part
fails, what the earlier parts consumed is given back.  The failure of the first part
passes through as it is.
-/

namespace Backtrack.Parser

variable {α β γ : Type}

/-- Runs `p` as a later part of a sequence that began at `start`: when it fails, notes
the event that `report` makes of where it stopped, and puts the cursor back. -/
def within (p : Parser α) (start : Cursor) (report : Cursor → Failure → Event) : Parser α :=
  p.handle fun e ↦ do
    let stop ← here
    note (report stop e)
    failAt start e

theorem parse_within (p : Parser α) (start : Cursor) (report : Cursor → Failure → Event)
    (c : Cursor) :
    (p.within start report).parse c = match p.parse c with
      | none => none
      | some ⟨.ok a, d, es⟩ => some ⟨.ok a, d, es⟩
      | some ⟨.error e, d, es⟩ => some ⟨.error e, start, es ++ [report d e]⟩ := by
  rw [within, parse_handle]
  rcases p.parse c with _ | ⟨_ | a, d, es⟩ <;> simp

/-- Runs `p` and then `q`, for a pair of values. -/
def zip (p : Parser α) (q : Parser β) : Parser (α × β) := do
  let start ← here
  let a ← p
  let b ← q.within start fun stop _ ↦ .rolledBack (stop.position - start.position)
  return (a, b)

theorem parse_zip (p : Parser α) (q : Parser β) (c : Cursor) :
    (p.zip q).parse c = match p.parse c with
      | none => none
      | some ⟨.error e, d, es⟩ => some ⟨.error e, d, es⟩
      | some ⟨.ok a, d, es⟩ =>
        match q.parse d with
        | none => none
        | some ⟨.ok b, d', fs⟩ => some ⟨.ok (a, b), d', es ++ fs⟩
        | some ⟨.error e, d', fs⟩ =>
          some ⟨.error e, c, es ++ (fs ++ [.rolledBack (d'.position - c.position)])⟩ := by
  rw [zip, parse_here_bind, parse_bind]
  rcases p.parse c with _ | ⟨_ | a, d, es⟩
  · rfl
  · rfl
  · simp only [parse_bind, parse_within]
    rcases q.parse d with _ | ⟨_ | b, d', fs⟩ <;> simp

/-- Runs three parsers, for a triple of values. -/
def zip3 (p : Parser α) (q : Parser β) (r : Parser γ) : Parser (α × β × γ) :=
  p.zip (q.zip r)

/-- Runs `p`, and then the parser that `k` chooses by its value. -/
def flatMap (p : Parser α) (k : α → Parser β) : Parser β := do
  let start ← here
  let a ← p
  (k a).within start fun _ e ↦ .stageFailed e

theorem parse_flatMap (p : Parser α) (k : α → Parser β) (c : Cursor) :
    (p.flatMap k).parse c = match p.parse c with
      | none => none
      | some ⟨.error e, d, es⟩ => some ⟨.error e, d, es⟩
      | some ⟨.ok a, d, es⟩ =>
        match (k a).parse d with
        | none => none
        | some ⟨.ok b, d', fs⟩ => some ⟨.ok b, d', es ++ fs⟩
        | some ⟨.error e, _, fs⟩ => some ⟨.error e, c, es ++ (fs ++ [.stageFailed e])⟩ := by
  rw [flatMap, parse_here_bind, parse_bind]
  rcases p.parse c with _ | ⟨_ | a, d, es⟩
  · rfl
  · rfl
  · simp only [parse_within]
    rcases (k a).parse d with _ | ⟨_ | b, d', fs⟩ <;> simp

end Backtrack.Parser
