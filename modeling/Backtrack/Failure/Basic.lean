import Backtrack.Text.Basic

/-!
# Failures

Why a parser failed.  A failure keeps the text that was left where it arose, so it is
its own location; a choice that ran out of alternatives keeps the failure of each of
them.  Two failures are equal when they have the same shape and the same texts.
-/

namespace Backtrack

/-- Why a parser failed. -/
inductive Failure where
  /-- The parser fails on every input. -/
  | never
  /-- Every alternative of a choice failed, in this order. -/
  | noAlternative (rest : Text) (attempts : List Failure)
  /-- The numerals at the start of the rest are no number of the range. -/
  | notNumber (digits rest : Text)
  /-- The rest does not start with the expected text. -/
  | missingLiteral (expected rest : Text)
  /-- A character was asked for where none is left. -/
  | endOfInput
  /-- The parsed value was refused. -/
  | rejected (reason rest : Text)
deriving Repr

namespace Failure

/-! ## Equality -/

mutual

/-- Whether two failures have the same shape and the same texts. -/
def same : Failure → Failure → Bool
  | never, never => true
  | noAlternative r as, noAlternative s bs => r == s && sameAll as bs
  | notNumber d r, notNumber e s => d == e && r == s
  | missingLiteral x r, missingLiteral y s => x == y && r == s
  | endOfInput, endOfInput => true
  | rejected m r, rejected n s => m == n && r == s
  | _, _ => false

/-- Whether two lists of failures are the same, one by one. -/
def sameAll : List Failure → List Failure → Bool
  | [], [] => true
  | a :: as, b :: bs => same a b && sameAll as bs
  | _, _ => false

end

mutual

theorem same_self : ∀ a : Failure, same a a = true
  | never => rfl
  | noAlternative r as => by simp [same, sameAll_self as]
  | notNumber d r => by simp [same]
  | missingLiteral x r => by simp [same]
  | endOfInput => rfl
  | rejected m r => by simp [same]

theorem sameAll_self : ∀ as : List Failure, sameAll as as = true
  | [] => rfl
  | a :: as => by simp [sameAll, same_self a, sameAll_self as]

end

mutual

theorem eq_of_same : ∀ {a b : Failure}, same a b = true → a = b
  | never, b, h => by cases b <;> simp_all [same]
  | noAlternative r as, b, h => by
      cases b with
      | noAlternative s bs =>
          simp only [same, Bool.and_eq_true, beq_iff_eq] at h
          rw [h.1, eq_of_sameAll h.2]
      | _ => simp [same] at h
  | notNumber d r, b, h => by cases b <;> simp_all [same]
  | missingLiteral x r, b, h => by cases b <;> simp_all [same]
  | endOfInput, b, h => by cases b <;> simp_all [same]
  | rejected m r, b, h => by cases b <;> simp_all [same]

theorem eq_of_sameAll : ∀ {as bs : List Failure}, sameAll as bs = true → as = bs
  | [], [], _ => rfl
  | a :: as, b :: bs, h => by
      simp only [sameAll, Bool.and_eq_true] at h
      rw [eq_of_same h.1, eq_of_sameAll h.2]
  | [], _ :: _, h => by simp [sameAll] at h
  | _ :: _, [], h => by simp [sameAll] at h

end

instance : DecidableEq Failure := fun a b ↦
  if h : same a b = true then isTrue (eq_of_same h)
  else isFalse fun hab ↦ h (hab ▸ same_self a)

/-! ## Kind and location -/

/-- The kinds of failure, without their texts. -/
inductive Kind where
  | never
  | noAlternative
  | notNumber
  | missingLiteral
  | endOfInput
  | rejected
deriving DecidableEq, Repr

/-- The kind of a failure. -/
def kind : Failure → Kind
  | never => .never
  | noAlternative _ _ => .noAlternative
  | notNumber _ _ => .notNumber
  | missingLiteral _ _ => .missingLiteral
  | endOfInput => .endOfInput
  | rejected _ _ => .rejected

/-- The text that was left where the failure arose, if it has a place at all. -/
def rest? : Failure → Option Text
  | never => none
  | endOfInput => some []
  | noAlternative r _ => some r
  | notNumber _ r => some r
  | missingLiteral _ r => some r
  | rejected _ r => some r

/-! ## Exhausted choices -/

/-- What one alternative's failure adds to the attempts of a choice at `rest`: a
nested choice that failed at the same place adds its own attempts. -/
def attemptsAt (rest : Text) : Failure → List Failure
  | noAlternative r as => if r.byteSize = rest.byteSize then as else [noAlternative r as]
  | e => [e]

/-- The failure of a choice at `rest` whose alternatives failed in the given order. -/
def exhausted (rest : Text) (failures : List Failure) : Failure :=
  noAlternative rest (failures.flatMap (attemptsAt rest))

end Failure

end Backtrack
