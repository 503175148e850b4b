import Backtrack.Proofs.Parser.Outcome
import Backtrack.Proofs.Parser.Simulation

/-!
# Grammars as transactions

Some parsers leave the cursor moved when they fail.  In the transactional meaning of a
grammar none does: every parser in it, down to those that the combinators are made of,
puts the cursor back to where it started itself.  Nothing but the cursor after a failure
of the whole grammar and the number of bytes that a pair reports to take back tells the
two meanings apart (`sameResult_transactional`), whatever the scripts of the grammar do
before they fail.
-/

namespace Backtrack

variable {α : Type}

namespace Parser

/-- Runs `p`, and puts the cursor back to where it started when `p` fails. -/
def atomic (p : Parser α) : Parser α := do
  let start ← here
  p.handle fun e ↦ failAt start e

theorem parse_atomic (p : Parser α) (c : Cursor) :
    p.atomic.parse c = match p.parse c with
      | none => none
      | some ⟨.ok a, d, es⟩ => some ⟨.ok a, d, es⟩
      | some ⟨.error e, _, es⟩ => some ⟨.error e, c, es⟩ := by
  rw [atomic, parse_here_bind, parse_handle]
  rcases p.parse c with _ | ⟨_ | a, d, es⟩ <;> simp

theorem fails_atomic {p : Parser α} {c d : Cursor} {e : Failure} :
    p.atomic.Fails c e d ↔ (∃ stop, p.Fails c e stop) ∧ d = c := by
  simp only [Fails, parse_atomic]
  rcases p.parse c with _ | ⟨_ | b, m, es⟩ <;> simp [eq_comm]

/-- A parser is alike to every transaction of an alike parser. -/
theorem Simulates.atomic {T : Tolerance} {p q : Parser α} (h : p.Simulates T q) :
    p.Simulates T q.atomic := by
  intro c
  rw [parse_atomic]
  rcases h.dest c with ⟨h, h'⟩ | ⟨a, d, xs, ys, h, h', hxs⟩ |
    ⟨e, f, d, d', xs, ys, h, h', he, hxs⟩
  · rw [h, h']
    exact .none
  · rw [h, h']
    exact .some (.ok hxs)
  · rw [h, h']
    exact .some (.error he hxs)

end Parser

/-- The parser of a grammar in which every parser is a transaction, those of the rules
included. -/
def Grammar.transactional (g : Grammar) (rules : Rules) (depth : Nat) : Parser Value :=
  g.interpretWith (fun _ p ↦ p.atomic) (rules.parserWith (fun _ p ↦ p.atomic) depth)

/-- The event without the number of bytes that a pair takes back. -/
def Event.withoutBytes : Event → Event
  | rolledBack _ => rolledBack 0
  | consumed position size => consumed position size
  | firstFailed e => firstFailed e
  | alternativeFailed index e => alternativeFailed index e
  | stageFailed e => stageFailed e

/-- The replies have the same result and, apart from numbers of bytes taken back, the
same events; only after a failure they may have different cursors. -/
structure Reply.SameResult (r s : Reply α) : Prop where
  outcome : r.outcome = s.outcome
  cursor (a : α) : r.outcome = .ok a → r.cursor = s.cursor
  events : r.events.map Event.withoutBytes = s.events.map Event.withoutBytes

/-- Only numbers of bytes taken back may differ. -/
def Tolerance.bytes : Tolerance where
  failure e f := e = f
  event x y := x.withoutBytes = y.withoutBytes
  failure_refl _ := rfl
  event_refl _ := rfl
  exhausted rest es fs h := by
    rw [List.forall₂_eq_eq_eq] at h
    rw [h]
  firstFailed h := by rw [h]
  alternativeFailed index e f h := by rw [h]
  stageFailed h := by rw [h]
  rolledBack _ _ := rfl

theorem Reply.Alike.sameResult {r s : Reply α} (h : r.Alike .bytes s) : r.SameResult s := by
  have hevents : ∀ {xs ys}, List.Forall₂ Tolerance.bytes.event xs ys →
      xs.map Event.withoutBytes = ys.map Event.withoutBytes := by
    intro xs ys h
    induction h with
    | nil => rfl
    | cons hx _ ih => rw [List.map_cons, List.map_cons, ih, hx]
  cases h with
  | ok hxs => exact ⟨rfl, fun _ _ ↦ rfl, hevents hxs⟩
  | error he hxs => exact ⟨congrArg Except.error he, fun _ h ↦ (nomatch h), hevents hxs⟩

namespace Grammar

/-- The two meanings of a grammar are alike, with any tolerance. -/
theorem simulates_transactional {T : Tolerance} (g : Grammar) (rules : Rules) (depth : Nat) :
    (g.parser rules depth).Simulates T (g.transactional rules depth) :=
  Parser.congruence_simulates.interpretWith .atomic
    (Parser.congruence_simulates.parserWith .atomic rules depth) g

/-- In the transactional meaning a failure leaves the cursor where it was. -/
theorem fails_transactional {g : Grammar} {rules : Rules} {depth : Nat} {c d : Cursor}
    {e : Failure} (h : (g.transactional rules depth).Fails c e d) : d = c := by
  cases g <;> exact (Parser.fails_atomic.mp h).2

/-- Runs and parses of a grammar and of its transactional meaning come to an end at the
same inputs and cursors, and then with the same result.  The cursor of a failure is the
start in the transactional meaning, wherever it is in the other. -/
theorem sameResult_transactional (g : Grammar) (rules : Rules) (depth : Nat) :
    (∀ input, Option.Rel Reply.SameResult ((g.parser rules depth).run input)
      ((g.transactional rules depth).run input)) ∧
    (∀ c, Option.Rel Reply.SameResult ((g.parser rules depth).parse c)
      ((g.transactional rules depth).parse c)) ∧
    ∀ c e d, (g.transactional rules depth).Fails c e d → d = c := by
  have h : (g.parser rules depth).Simulates .bytes (g.transactional rules depth) :=
    simulates_transactional g rules depth
  have hrel : ∀ {β : Type} {o o' : Option (Reply β)},
      Option.Rel (Reply.Alike .bytes) o o' → Option.Rel Reply.SameResult o o' := by
    intro β o o' ho
    cases ho with
    | none => exact .none
    | some hrs => exact .some hrs.sameResult
  exact ⟨fun input ↦ hrel (h.run input), fun c ↦ hrel (h c), fun _ _ _ ↦ fails_transactional⟩

end Grammar

end Backtrack
