import Backtrack.Proofs.Parser.Outcome

/-!
# Laws of chaining

A parser that goes on with what its value chooses (`Parser.flatMap`) obeys the laws of a
monad, with `always` as the unit, as far as it can while it takes back what a failed stage
consumed (`flatMap_monad_laws`).

* Associativity holds up to the trace.  Where the first of three stages fails, its cursor
  stays as that stage left it in both bracketings.  Where a later one fails, the bracketings
  take back at different places: to the left the outer parser takes back everything, to the
  right the inner one takes back the second stage and the outer one the first.  In the end
  both cursors are where the whole started.
* `always` is a unit on the right without any restriction, even for what is noted.
* On the left it is one up to the cursor of a failure, which the chain puts back and the
  chosen parser alone need not.
-/

namespace Backtrack.Parser

variable {α β γ : Type}

/-- To go on with a constant parser of a transformed value is to transform the value. -/
theorem flatMap_always_comp (p : Parser α) (f : α → β) :
    (p.flatMap fun a ↦ always (f a)) = p.map f := by
  ext1
  funext c
  rw [parse_flatMap, parse_map]
  rcases p.parse c with _ | ⟨_ | a, d, es⟩
  · rfl
  · rfl
  · simp [always]

/-- To go on with the value as it is changes nothing. -/
theorem flatMap_always (p : Parser α) : p.flatMap always = p := by
  rw [flatMap_always_comp p fun a ↦ a, map_id]

/-- It does not matter which two of three stages are chained first. -/
theorem flatMap_assoc_agrees (p : Parser α) (k : α → Parser β) (l : β → Parser γ) :
    ((p.flatMap k).flatMap l).Agrees (p.flatMap fun a ↦ (k a).flatMap l) := by
  refine agrees_iff.mpr fun c ↦ ⟨fun v d ↦ ?_, fun e d ↦ ?_⟩
  · simp only [succeeds_flatMap]
    constructor
    · rintro ⟨b, m', ⟨a, m, ha, hb⟩, hv⟩
      exact ⟨a, m, ha, b, m', hb, hv⟩
    · rintro ⟨a, m, ha, b, m', hb, hv⟩
      exact ⟨b, m', ⟨a, m, ha, hb⟩, hv⟩
  · simp only [fails_flatMap, succeeds_flatMap]
    constructor
    · rintro ((hp | ⟨⟨a, m, stop, ha, hk⟩, rfl⟩) | ⟨⟨b, m', stop, ⟨a, m, ha, hb⟩, hl⟩, rfl⟩)
      · exact .inl hp
      · exact .inr ⟨⟨a, m, stop, ha, .inl hk⟩, rfl⟩
      · -- The inner chain has put the cursor back to `m`, the outer one goes on to `d`.
        exact .inr ⟨⟨a, m, m, ha, .inr ⟨⟨b, m', stop, hb, hl⟩, rfl⟩⟩, rfl⟩
    · rintro (hp | ⟨⟨a, m, stop, ha, hk | ⟨⟨b, m', stop', hb, hl⟩, -⟩⟩, rfl⟩)
      · exact .inl (.inl hp)
      · exact .inl (.inr ⟨⟨a, m, stop, ha, hk⟩, rfl⟩)
      · exact .inr ⟨⟨b, m', stop', ⟨a, m, ha, hb⟩, hl⟩, rfl⟩

theorem succeeds_always_flatMap {a : α} {k : α → Parser β} {c d : Cursor} {b : β} :
    ((always a).flatMap k).Succeeds c b d ↔ (k a).Succeeds c b d := by
  simp [succeeds_flatMap]

theorem fails_always_flatMap {a : α} {k : α → Parser β} {c d : Cursor} {e : Failure} :
    ((always a).flatMap k).Fails c e d ↔ (∃ stop, (k a).Fails c e stop) ∧ d = c := by
  simp [fails_flatMap]

/-- A parser that fails behind a character is put back by the chain. -/
example :
    let leaky : Parser Unit := ⟨fun c ↦ some ⟨.error .never, c.advance 1, []⟩⟩
    let c : Cursor := .start ['x']
    ((always ()).flatMap fun _ ↦ leaky).parse c = some ⟨.error .never, c, [.stageFailed .never]⟩ :=
  rfl

/-- Chaining is associative, with the same cursor after a success and after a failure,
whatever the stages do before they fail.  The constant parsers are a unit on the right, and
chaining with one of them transforms the value.  On the left they are a unit except that the
cursor of a failure is put back. -/
theorem flatMap_monad_laws (p : Parser α) (k : α → Parser β) (l : β → Parser γ) :
    ((p.flatMap k).flatMap l).Agrees (p.flatMap fun a ↦ (k a).flatMap l) ∧
    p.flatMap always = p ∧
    (∀ f : α → β, p.map f = p.flatMap fun a ↦ always (f a)) ∧
    ∀ a c,
      (∀ b d, ((always a).flatMap k).Succeeds c b d ↔ (k a).Succeeds c b d) ∧
      ∀ e d, ((always a).flatMap k).Fails c e d ↔ (∃ stop, (k a).Fails c e stop) ∧ d = c :=
  ⟨flatMap_assoc_agrees p k l, flatMap_always p, fun f ↦ (flatMap_always_comp p f).symm,
    fun _ _ ↦ ⟨fun _ _ ↦ succeeds_always_flatMap, fun _ _ ↦ fails_always_flatMap⟩⟩

end Backtrack.Parser
