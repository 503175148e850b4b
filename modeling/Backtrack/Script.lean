import Backtrack.Parser.Basic

/-!
# Scripts

A script is a hand-written parser: it works on the cursor directly and promises
nothing about where it leaves it.  It can look at the cursor, advance it, rewind it,
or put a cursor over another text in its place, and ends with an outcome.  Cursors
come out of a script only by these operations, so it cannot leave one inside a
character.
-/

namespace Backtrack

/-- What a hand-written parser does with the cursor. -/
inductive Script (α : Type) where
  /-- Ends with an outcome, where the cursor stands. -/
  | stop (outcome : Except Failure α)
  /-- Consumes `n` bytes. -/
  | advance (n : Nat) (next : Script α)
  /-- Goes back to the start of the text. -/
  | rewind (next : Script α)
  /-- Goes to the start of another text. -/
  | replace (text : Text) (next : Script α)
  /-- Looks at the cursor and goes on accordingly. -/
  | observe (next : Cursor → Script α)

namespace Script

variable {α β : Type}

/-- The outcome of a script, and the cursor that it leaves. -/
def run : Script α → Cursor → Except Failure α × Cursor
  | stop outcome, c => (outcome, c)
  | advance n next, c => next.run (c.advance n)
  | rewind next, c => next.run (.start c.source)
  | replace text next, _ => next.run (.start text)
  | observe next, c => (next c).run c

/-- The parser that runs a script.  It notes nothing and always comes to an end. -/
def toParser (s : Script α) : Parser α :=
  ⟨fun c ↦ let r := s.run c; some ⟨r.1, r.2, []⟩⟩

@[simp] theorem parse_toParser (s : Script α) (c : Cursor) :
    s.toParser.parse c = some ⟨(s.run c).1, (s.run c).2, []⟩ := rfl

/-- Transforms the value that a script ends with. -/
def map (f : α → β) : Script α → Script β
  | stop outcome => stop (outcome.map f)
  | advance n next => advance n (next.map f)
  | rewind next => rewind (next.map f)
  | replace text next => replace text (next.map f)
  | observe next => observe fun c ↦ (next c).map f

@[simp] theorem run_map (f : α → β) (s : Script α) (c : Cursor) :
    (s.map f).run c = ((s.run c).1.map f, (s.run c).2) := by
  induction s generalizing c with
  | stop outcome => rfl
  | advance n next ih => exact ih _
  | rewind next ih => exact ih _
  | replace text next ih => exact ih _
  | observe next ih => exact ih c c

/-- Takes a field of exactly `n` bytes.  When `n` is negative, more than there is, or
ends inside a character, it fails without moving. -/
def field (n : Int) : Script Text :=
  .observe fun c ↦
    match if n < 0 then none else c.rest.takeBytes? n.toNat with
    | some t => .advance t.byteSize (.stop (.ok t))
    | none => .stop (.error (.rejected "field is shorter than its length".toList c.rest))

end Script

end Backtrack
