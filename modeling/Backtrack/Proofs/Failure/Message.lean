import Backtrack.Failure.Message
import Backtrack.Proofs.Text.Quoted

/-!
# What a message tells

To a reader who knows the kind of a failure, its message tells every text that the failure
keeps (`message_unambiguous`).  Of the attempts of a choice it tells how many there are.

All these texts are quoted, except for the reason of a refusal, which is written as it is.  So a
reason can go on as a message does, with a place of its own and a quote at the end, and reading
the message from the front does not find the place.  The place is found from behind: a space
stands in front of it, and inside a quoted text every quote comes after a backslash.
-/

namespace Backtrack.Failure

theorem message_notNumber_inj {d r d' r' : Text} :
    (notNumber d r).message = (notNumber d' r').message ↔ d = d' ∧ r = r' := by
  unfold message
  simp only [List.append_assoc, List.append_cancel_left_eq, Text.quoted_append_inj,
    Text.quoted_inj]

theorem message_missingLiteral_inj {x r x' r' : Text} :
    (missingLiteral x r).message = (missingLiteral x' r').message ↔ x = x' ∧ r = r' := by
  unfold message
  simp only [List.append_assoc, List.append_cancel_left_eq, Text.quoted_append_inj,
    Text.quoted_inj]

theorem message_rejected_inj {m r m' r' : Text} :
    (rejected m r).message = (rejected m' r').message ↔ m = m' ∧ r = r' := by
  -- The place is set apart by the last character in front of it, a space.
  have hspace : ∀ s t : Text, s ++ " at ".toList ++ t = (s ++ [' ', 'a', 't']) ++ ' ' :: t := by
    intro s t
    rw [List.append_assoc, List.append_assoc]
    rfl
  unfold message
  dsimp only
  rw [hspace, hspace, Text.append_quoted_inj (by decide), List.append_left_inj]

theorem message_noAlternative_inj {r r' : Text} {as as' : List Failure} :
    (noAlternative r as).message = (noAlternative r' as').message ↔
      r = r' ∧ as.length = as'.length := by
  unfold message
  simp only [List.append_assoc, List.append_cancel_left_eq, Text.quoted_append_inj,
    List.append_cancel_right_eq, Numeral.decimal_injective.eq_iff]

/-- The kind has to be known: for each failure to read a number there is a refusal with the same
message. -/
theorem message_rejected_eq_notNumber (d r : Text) :
    (rejected ("expected a number, found ".toList ++ d.quoted) r).message =
      (notNumber d r).message := rfl

/-- Two failures of one kind have the same message only if they keep the same texts: the numerals
and the place, the expected text and the place, the reason, whatever it is, and the place, or
the place of a choice, which has as many attempts then. -/
theorem message_unambiguous :
    (∀ d r d' r', (notNumber d r).message = (notNumber d' r').message ↔ d = d' ∧ r = r') ∧
      (∀ x r x' r', (missingLiteral x r).message = (missingLiteral x' r').message ↔
        x = x' ∧ r = r') ∧
      (∀ m r m' r', (rejected m r).message = (rejected m' r').message ↔ m = m' ∧ r = r') ∧
      ∀ r as r' as', (noAlternative r as).message = (noAlternative r' as').message ↔
        r = r' ∧ as.length = as'.length :=
  ⟨fun _ _ _ _ ↦ message_notNumber_inj, fun _ _ _ _ ↦ message_missingLiteral_inj,
    fun _ _ _ _ ↦ message_rejected_inj, fun _ _ _ _ ↦ message_noAlternative_inj⟩

end Backtrack.Failure
