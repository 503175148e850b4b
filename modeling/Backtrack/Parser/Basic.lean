import Backtrack.Cursor
import Backtrack.Trace

/-!
# Parsers

A parser runs from a cursor.  When it comes to an end it leaves a value or a failure,
the cursor where it stopped, and the events that it noted.  A recursive parser need
not come to an end, and then there is no reply.

Parsers are a monad: `p >>= k` runs `p`, and on success goes on with `k` where `p`
stopped.  A failure passes through and leaves the cursor where it was when the failure
arose; what puts the cursor back is said by each combinator, in terms of
`Parser.handle`.
-/

namespace Backtrack

/-! ## Replies -/

/-- What a parser leaves when it comes to an end. -/
@[ext]
structure Reply (α : Type) where
  /-- The value, or why there is none. -/
  outcome : Except Failure α
  /-- Where the parser stopped. -/
  cursor : Cursor
  /-- What the parser noted, in order. -/
  events : List Event

namespace Reply

variable {α : Type}

/-- The reply, with the events that came before it.  Where it has none of its own,
those before it are kept as they are. -/
def after (before : List Event) (r : Reply α) : Reply α :=
  ⟨r.outcome, r.cursor, if r.events.isEmpty then before else before ++ r.events⟩

@[simp] theorem after_mk (es fs : List Event) (o : Except Failure α) (c : Cursor) :
    after es ⟨o, c, fs⟩ = ⟨o, c, es ++ fs⟩ := by
  cases fs <;> simp [after]

@[simp] theorem outcome_after (es : List Event) (r : Reply α) :
    (r.after es).outcome = r.outcome := rfl

@[simp] theorem cursor_after (es : List Event) (r : Reply α) :
    (r.after es).cursor = r.cursor := rfl

@[simp] theorem events_after (es : List Event) (r : Reply α) :
    (r.after es).events = es ++ r.events := by
  cases r; simp

@[simp] theorem after_nil (r : Reply α) : r.after [] = r := by
  ext <;> simp

@[simp] theorem after_after (es fs : List Event) (r : Reply α) :
    (r.after fs).after es = r.after (es ++ fs) := by
  ext <;> simp

end Reply

/-! ## Parsers -/

/-- A parser of values of type `α`. -/
@[ext]
structure Parser (α : Type) where
  /-- Runs the parser from a cursor; `none` when it comes to no end. -/
  parse : Cursor → Option (Reply α)

namespace Parser

variable {α β : Type}

/-! ### Success and sequence -/

/-- Succeeds with a value, without looking at the input. -/
@[inline] def always (a : α) : Parser α := ⟨fun c ↦ some ⟨.ok a, c, []⟩⟩

/-- Runs `p`, and on success goes on with what `k` makes of its value. -/
@[inline] def andThen (p : Parser α) (k : α → Parser β) : Parser β :=
  ⟨fun c ↦ match p.parse c with
    | none => none
    | some ⟨.ok a, d, es⟩ => ((k a).parse d).map (Reply.after es)
    | some ⟨.error e, d, es⟩ => some ⟨.error e, d, es⟩⟩

instance : Monad Parser where
  pure := always
  bind := andThen

@[simp] theorem parse_pure (a : α) (c : Cursor) :
    (pure a : Parser α).parse c = some ⟨.ok a, c, []⟩ := rfl

theorem parse_bind (p : Parser α) (k : α → Parser β) (c : Cursor) :
    (p >>= k).parse c = match p.parse c with
      | none => none
      | some ⟨.ok a, d, es⟩ => ((k a).parse d).map (Reply.after es)
      | some ⟨.error e, d, es⟩ => some ⟨.error e, d, es⟩ := rfl

/-- Sequencing is associative, and `always` adds nothing to it. -/
instance : LawfulMonad Parser := by
  refine LawfulMonad.mk' Parser ?_ ?_ ?_
  · intro α p
    ext1
    funext c
    change (p >>= pure).parse c = p.parse c
    rw [parse_bind]
    split
    · next h => exact h.symm
    · next h => simp [h]
    · next h => exact h.symm
  · intro α β a k
    ext1
    funext c
    change ((k a).parse c).map (Reply.after []) = (k a).parse c
    cases (k a).parse c <;> simp
  · intro α β γ p k l
    ext1
    funext c
    simp only [parse_bind]
    cases p.parse c with
    | none => rfl
    | some r =>
        obtain ⟨o, d, es⟩ := r
        cases o with
        | error e => rfl
        | ok a =>
            simp only
            cases (k a).parse d with
            | none => rfl
            | some r =>
                obtain ⟨o, d', es'⟩ := r
                cases o with
                | error e => simp
                | ok b => simp [Function.comp_def]

/-! ### Failure and recovery -/

/-- Fails where it stands. -/
@[inline] def fail (e : Failure) : Parser α := ⟨fun c ↦ some ⟨.error e, c, []⟩⟩

@[simp] theorem parse_fail (e : Failure) (c : Cursor) :
    (fail e : Parser α).parse c = some ⟨.error e, c, []⟩ := rfl

/-- Fails on every input. -/
def never : Parser α := fail .never

/-- Runs `p`, and when it fails goes on with `h`, from where `p` left the cursor. -/
@[inline] def handle (p : Parser α) (h : Failure → Parser α) : Parser α :=
  ⟨fun c ↦ match p.parse c with
    | none => none
    | some ⟨.ok a, d, es⟩ => some ⟨.ok a, d, es⟩
    | some ⟨.error e, d, es⟩ => ((h e).parse d).map (Reply.after es)⟩

theorem parse_handle (p : Parser α) (h : Failure → Parser α) (c : Cursor) :
    (p.handle h).parse c = match p.parse c with
      | none => none
      | some ⟨.ok a, d, es⟩ => some ⟨.ok a, d, es⟩
      | some ⟨.error e, d, es⟩ => ((h e).parse d).map (Reply.after es) := rfl

/-! ### The cursor and the trace -/

/-- The cursor as it stands. -/
@[inline] def here : Parser Cursor := ⟨fun c ↦ some ⟨.ok c, c, []⟩⟩

@[simp] theorem parse_here (c : Cursor) : here.parse c = some ⟨.ok c, c, []⟩ := rfl

/-- Puts the cursor elsewhere. -/
@[inline] def moveTo (d : Cursor) : Parser Unit := ⟨fun _ ↦ some ⟨.ok (), d, []⟩⟩

@[simp] theorem parse_moveTo (d c : Cursor) :
    (moveTo d).parse c = some ⟨.ok (), d, []⟩ := rfl

/-- Consumes `n` bytes and succeeds with `a`. -/
@[inline] def accept (n : Nat) (a : α) : Parser α := ⟨fun c ↦ some ⟨.ok a, c.advance n, []⟩⟩

@[simp] theorem parse_accept (n : Nat) (a : α) (c : Cursor) :
    (accept n a).parse c = some ⟨.ok a, c.advance n, []⟩ := rfl

/-- Notes an event. -/
@[inline] def note (e : Event) : Parser Unit := ⟨fun c ↦ some ⟨.ok (), c, [e]⟩⟩

@[simp] theorem parse_note (e : Event) (c : Cursor) :
    (note e).parse c = some ⟨.ok (), c, [e]⟩ := rfl

@[simp] theorem parse_here_bind (k : Cursor → Parser α) (c : Cursor) :
    (here >>= k).parse c = (k c).parse c := by
  cases h : (k c).parse c <;> simp [parse_bind, h]

@[simp] theorem parse_moveTo_bind (d : Cursor) (k : Unit → Parser α) (c : Cursor) :
    (moveTo d >>= k).parse c = (k ()).parse d := by
  cases h : (k ()).parse d <;> simp [parse_bind, h]

@[simp] theorem parse_note_bind (e : Event) (k : Unit → Parser α) (c : Cursor) :
    (note e >>= k).parse c = ((k ()).parse c).map (Reply.after [e]) := rfl

/-- Fails with the cursor put back to `start`. -/
@[inline] def failAt (start : Cursor) (e : Failure) : Parser α :=
  ⟨fun _ ↦ some ⟨.error e, start, []⟩⟩

@[simp] theorem parse_failAt (start : Cursor) (e : Failure) (c : Cursor) :
    (failAt start e : Parser α).parse c = some ⟨.error e, start, []⟩ := rfl

/-! ### Recursion -/

/-- Comes to no end. -/
def endless : Parser α := ⟨fun _ ↦ none⟩

@[simp] theorem parse_endless (c : Cursor) : (endless : Parser α).parse c = none := rfl

/-- A parser that is only made when it runs, so that a grammar can refer to itself. -/
def delay (p : Unit → Parser α) : Parser α := ⟨fun c ↦ (p ()).parse c⟩

/-- When a parser is made does not matter to what it does. -/
@[simp] theorem delay_eq (p : Unit → Parser α) : delay p = p () := rfl

end Parser

end Backtrack
