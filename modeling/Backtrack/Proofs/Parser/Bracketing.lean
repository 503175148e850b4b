import Backtrack.Proofs.Parser.Outcome

/-!
# Bracketings of alternatives

Two or more alternatives can be combined two at a time, in any bracketing, or all at once.
It comes to the same (`Bracketing.agrees_choice`): each alternative starts where the whole
started, the first success decides, and a failure lists the same attempts in the same
order.  The last holds although every choice splices one level only.  A choice inside
another one has spliced already what its own alternatives failed with, and it failed where
the outer one stands, so the outer one takes its attempts over as they are.
-/

namespace Backtrack

namespace Failure

/-- A choice that failed at `rest` adds to a choice at `rest` what its alternatives would
have added. -/
theorem attemptsAt_exhausted (rest : Text) (es : List Failure) :
    attemptsAt rest (exhausted rest es) = es.flatMap (attemptsAt rest) := by
  rw [exhausted, attemptsAt, if_pos rfl]

end Failure

namespace Parser

/-- Alternatives, combined two at a time. -/
inductive Bracketing (α : Type) where
  /-- An alternative. -/
  | one (p : Parser α)
  /-- Those on the left before those on the right. -/
  | either (left right : Bracketing α)

namespace Bracketing

variable {α : Type} {b : Bracketing α} {c d : Cursor}

/-- The parser that combines the alternatives as they are bracketed. -/
def toParser : Bracketing α → Parser α
  | one p => p
  | either left right => left.toParser.orElse right.toParser

/-- The alternatives in order. -/
def alternatives : Bracketing α → List (Parser α)
  | one p => [p]
  | either left right => left.alternatives ++ right.alternatives

/-- What a bracketing that fails adds to a choice is what its alternatives would add one by
one. -/
theorem exists_fails_toParser {as : List Failure} :
    (∃ e d, b.toParser.Fails c e d ∧ Failure.attemptsAt c.rest e = as) ↔
      ∃ es, AllFail c b.alternatives es ∧ es.flatMap (Failure.attemptsAt c.rest) = as := by
  induction b generalizing as with
  | one p =>
      constructor
      · rintro ⟨e, d, h, rfl⟩
        exact ⟨[e], .cons ⟨d, h⟩ .nil, List.flatMap_singleton _ _⟩
      · rintro ⟨es, hes, rfl⟩
        obtain ⟨e, _, ⟨d, h⟩, hnil, rfl⟩ := List.forall₂_cons_left_iff.mp hes
        cases hnil
        exact ⟨e, d, h, (List.flatMap_singleton _ _).symm⟩
  | either left right ihl ihr =>
      constructor
      · rintro ⟨e, d, h, rfl⟩
        obtain ⟨⟨e₁, e₂, ⟨d₁, h₁⟩, ⟨d₂, h₂⟩, rfl⟩, _⟩ := fails_orElse.mp h
        obtain ⟨es₁, hes₁, has₁⟩ := ihl.mp ⟨e₁, d₁, h₁, rfl⟩
        obtain ⟨es₂, hes₂, has₂⟩ := ihr.mp ⟨e₂, d₂, h₂, rfl⟩
        refine ⟨es₁ ++ es₂, allFail_append.mpr ⟨es₁, es₂, hes₁, hes₂, rfl⟩, ?_⟩
        rw [List.flatMap_append, has₁, has₂, Failure.attemptsAt_exhausted]
        simp
      · rintro ⟨es, hes, rfl⟩
        obtain ⟨es₁, es₂, hes₁, hes₂, rfl⟩ := allFail_append.mp hes
        obtain ⟨e₁, d₁, h₁, has₁⟩ := ihl.mpr ⟨es₁, hes₁, rfl⟩
        obtain ⟨e₂, d₂, h₂, has₂⟩ := ihr.mpr ⟨es₂, hes₂, rfl⟩
        refine ⟨_, c, fails_orElse.mpr ⟨⟨e₁, e₂, ⟨d₁, h₁⟩, ⟨d₂, h₂⟩, rfl⟩, rfl⟩, ?_⟩
        rw [Failure.attemptsAt_exhausted, List.flatMap_append, ← has₁, ← has₂]
        simp

/-- A bracketing succeeds as its first alternative that does not fail. -/
theorem succeeds_toParser {a : α} :
    b.toParser.Succeeds c a d ↔ FirstSucceeds c b.alternatives a d := by
  induction b with
  | one p => simp [toParser, alternatives, firstSucceeds_cons, not_firstSucceeds_nil]
  | either left right ihl ihr =>
      have hleft : (∃ e stop, left.toParser.Fails c e stop) ↔
          ∃ es, AllFail c left.alternatives es := by
        constructor
        · rintro ⟨e, stop, h⟩
          obtain ⟨es, hes, _⟩ := exists_fails_toParser.mp ⟨e, stop, h, rfl⟩
          exact ⟨es, hes⟩
        · rintro ⟨es, hes⟩
          obtain ⟨e, stop, h, _⟩ := exists_fails_toParser.mpr ⟨es, hes, rfl⟩
          exact ⟨e, stop, h⟩
      rw [toParser, succeeds_orElse, alternatives, firstSucceeds_append, ihl, ihr, hleft]

/-- Alternatives that are combined fail as an exhausted choice of all of them. -/
theorem fails_either {left right : Bracketing α} {e : Failure} :
    (either left right).toParser.Fails c e d ↔
      (∃ es, AllFail c (either left right).alternatives es ∧ e = .exhausted c.rest es) ∧
        d = c := by
  -- The failure is an exhausted choice of two, which is known by its attempts.
  have hattempts : ∀ {e e₁ e₂ : Failure} {es : List Failure},
      e = .exhausted c.rest [e₁, e₂] →
        es.flatMap (Failure.attemptsAt c.rest) = Failure.attemptsAt c.rest e →
          e = .exhausted c.rest es := by
    rintro e e₁ e₂ es rfl h
    rw [Failure.attemptsAt_exhausted] at h
    rw [Failure.exhausted, Failure.exhausted, h]
  constructor
  · intro h
    obtain ⟨⟨e₁, e₂, _, _, he⟩, hd⟩ := fails_orElse.mp h
    obtain ⟨es, hes, has⟩ := exists_fails_toParser.mp ⟨e, d, h, rfl⟩
    exact ⟨⟨es, hes, hattempts he has⟩, hd⟩
  · rintro ⟨⟨es, hes, rfl⟩, rfl⟩
    obtain ⟨e, d', h, has⟩ := exists_fails_toParser.mpr ⟨es, hes, rfl⟩
    obtain ⟨⟨e₁, e₂, _, _, he⟩, rfl⟩ := fails_orElse.mp h
    rw [← hattempts he has.symm]
    exact h

theorem either_agrees_choice {left right : Bracketing α} {p : Parser α} {ps : List (Parser α)}
    (h : (either left right).alternatives = p :: ps) :
    (either left right).toParser.Agrees (choice p ps) := by
  refine agrees_iff.mpr fun c ↦ ⟨fun a d ↦ ?_, fun e d ↦ ?_⟩
  · rw [succeeds_toParser, succeeds_choice, h]
  · rw [fails_either, fails_choice, h]

end Bracketing

variable {α : Type}

/-- It does not matter which two of three alternatives are combined first. -/
theorem orElse_assoc_agrees (p q r : Parser α) :
    ((p.orElse q).orElse r).Agrees (p.orElse (q.orElse r)) := by
  have hleft : (Bracketing.either (.either (.one p) (.one q)) (.one r)).alternatives =
      [p, q, r] := rfl
  have hright : (Bracketing.either (.one p) (.either (.one q) (.one r))).alternatives =
      [p, q, r] := rfl
  exact (Bracketing.either_agrees_choice hleft).trans
    (Bracketing.either_agrees_choice hright).symm

/-- Two or more parsers that are combined two at a time, in any bracketing, agree with the
choice of them all, whatever the parsers do before they fail: they have the same value or
the same failure, which is that of a choice at the start, and the same cursor after it. -/
theorem Bracketing.agrees_choice {b : Bracketing α} {p q : Parser α} {ps : List (Parser α)}
    (h : b.alternatives = p :: q :: ps) :
    b.toParser.Agrees (choice p (q :: ps)) ∧
      (∀ c e d, b.toParser.Fails c e d →
        (∃ attempts, e = .noAlternative c.rest attempts) ∧ d = c) ∧
      ∀ x y z : Parser α, ((x.orElse y).orElse z).Agrees (x.orElse (y.orElse z)) := by
  refine ⟨?_, ?_, orElse_assoc_agrees⟩
  · cases b with
    | one => cases h
    | either left right => exact either_agrees_choice h
  · intro c e d hf
    cases b with
    | one => cases h
    | either left right =>
        obtain ⟨⟨es, _, rfl⟩, hd⟩ := fails_either.mp hf
        exact ⟨⟨_, rfl⟩, hd⟩

/-- Of three parsers that fail, the first leaves the cursor further on and the second puts
another text in its place.  Their failures look like choices at the start: one of them has
a choice of the same size among its attempts, which stays as it is, the other has none. -/
theorem Bracketing.agrees_choice_leaky :
    let ahead : Parser Char := ⟨fun c ↦
      some ⟨.error (.noAlternative ['x', 'y'] [.never, .noAlternative ['é'] [.endOfInput]]),
        c.advance 1, []⟩⟩
    let elsewhere : Parser Char := ⟨fun _ ↦
      some ⟨.error (.noAlternative ['é'] []), .start ['n'], []⟩⟩
    let b : Bracketing Char := .either (.one ahead) (.either (.one elsewhere) (.one .never))
    let c : Cursor := .start ['é']
    let e : Failure :=
      .noAlternative ['é'] [.never, .noAlternative ['é'] [.endOfInput], .never]
    b.alternatives = [ahead, elsewhere, .never] ∧ b.toParser.Fails c e c ∧
      (choice ahead [elsewhere, .never]).Fails c e c ∧
      b.toParser.Agrees (choice ahead [elsewhere, .never]) := by
  intro ahead elsewhere b c e
  have h : b.alternatives = [ahead, elsewhere, .never] := rfl
  exact ⟨h, ⟨_, rfl⟩, ⟨_, rfl⟩, (agrees_choice h).1⟩

end Parser

end Backtrack
