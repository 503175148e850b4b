import Backtrack.Grammar.Parser
import Backtrack.Probe

/-!
# Sessions

A session works on one cursor step by step: it parses, advances, looks at the cursor,
keeps copies of it and puts them back.  Each step is answered by its result, if it has
one, and by the cursor after it.
-/

namespace Backtrack

/-- The state of a session. -/
structure Session where
  /-- The cursor that the steps work on. -/
  cursor : Cursor
  /-- The kept copies by name, the latest first. -/
  saved : List (String × Cursor)

namespace Session

/-- A step of a session. -/
inductive Step where
  /-- Parses from the cursor. -/
  | parse (g : Grammar)
  /-- Consumes `n` bytes. -/
  | advance (n : Nat)
  /-- Asks about the cursor. -/
  | ask (question : Probe)
  /-- Keeps a copy of the cursor. -/
  | save (slot : String)
  /-- Puts a kept copy in the place of the cursor. -/
  | restore (slot : String)
  /-- Asks whether the cursor is equal to a kept copy. -/
  | compare (slot : String)
  /-- Puts the start of a text in the place of the cursor. -/
  | load (text : Text)

/-- The answer to a step. -/
structure Answer where
  /-- The result, of a step that has one. -/
  result : Option (Except Failure Value)
  /-- The cursor after the step. -/
  cursor : Cursor
  /-- What parsing noted. -/
  events : List Event

/-- The session at the start of a text. -/
def start (t : Text) : Session := ⟨.start t, []⟩

/-- The session with the cursor elsewhere. -/
def moveTo (s : Session) (c : Cursor) : Session := { s with cursor := c }

/-- The kept copy of a name, if there is one. -/
def kept? (s : Session) (slot : String) : Option Cursor := s.saved.lookup slot

/-- The answer to a step without a result. -/
def quiet (s : Session) : Session × Answer := (s, ⟨none, s.cursor, []⟩)

/-- The answer to a step that gives a value and leaves the session as it is. -/
def answered (s : Session) (v : Value) : Session × Answer := (s, ⟨some (.ok v), s.cursor, []⟩)

/-- The session after a step, with its answer; `none` when parsing comes to no end.
Rules may be nested up to a depth. -/
def step (rules : Rules) (depth : Nat) (s : Session) : Step → Option (Session × Answer)
  | .parse g => ((g.parser rules depth).parse s.cursor).map fun r ↦
    (s.moveTo r.cursor, ⟨some r.outcome, r.cursor, r.events⟩)
  | .advance n => some (s.moveTo (s.cursor.advance n)).quiet
  | .ask question => some (s.answered (question.read s.cursor))
  | .save slot => some { s with saved := (slot, s.cursor) :: s.saved : Session }.quiet
  | .restore slot => some (s.moveTo ((s.kept? slot).getD s.cursor)).quiet
  | .compare slot => some (s.answered (.bool (s.kept? slot = some s.cursor)))
  | .load text => some (s.moveTo (.start text)).quiet

/-- The session after all steps, with their answers in order. -/
def run (rules : Rules) (depth : Nat) : Session → List Step → Option (Session × List Answer)
  | s, [] => some (s, [])
  | s, t :: ts => do
    let (s', a) ← s.step rules depth t
    let (s'', as) ← run rules depth s' ts
    return (s'', a :: as)

end Session

end Backtrack
