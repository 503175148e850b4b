import Backtrack.Proofs.Failure.Attempts
import Backtrack.Proofs.Parser.Ends

/-!
# Alternatives in order

A choice of several parsers and a pair of parsers that is tried one after the other are the
same kind of thing: both try a list of alternatives, in order and each from the start
(`Tries`).  So what they do is said by what the alternatives do on their own from there
(`Tries.in_order`).  An alternative may have left the cursor anywhere, or over another text,
when it failed; those after it do not see that.
-/

namespace Backtrack.Parser

variable {α : Type} {combined : Parser α} {alternatives : List (Parser α)} {c d : Cursor}

/-- The parser tries the alternatives of the list. -/
inductive Tries : Parser α → List (Parser α) → Prop
  | choice (p : Parser α) (ps : List (Parser α)) : Tries (.choice p ps) (p :: ps)
  | orElse (p q : Parser α) : Tries (p.orElse q) [p, q]

theorem Tries.succeeds_iff {a : α} (h : Tries combined alternatives) :
    combined.Succeeds c a d ↔ FirstSucceeds c alternatives a d := by
  cases h with
  | choice p ps => exact succeeds_choice
  | orElse p q => simp [succeeds_orElse, firstSucceeds_cons, not_firstSucceeds_nil]

theorem Tries.fails_iff {e : Failure} (h : Tries combined alternatives) :
    combined.Fails c e d ↔
      (∃ es, AllFail c alternatives es ∧ e = .exhausted c.rest es) ∧ d = c := by
  cases h with
  | choice p ps => exact fails_choice
  | orElse p q =>
      rw [fails_orElse]
      refine and_congr_left fun _ ↦ ⟨?_, ?_⟩
      · rintro ⟨e₁, e₂, h₁, h₂, rfl⟩
        exact ⟨[e₁, e₂], .cons h₁ (.cons h₂ .nil), rfl⟩
      · rintro ⟨es, _ | ⟨h₁, _ | ⟨h₂, _ | _⟩⟩, rfl⟩
        exact ⟨_, _, h₁, h₂, rfl⟩

/-! ## The first success -/

/-- From `c`, the alternative with the index `k` succeeds with `a` and stops at `d`, and all
those before it fail. -/
structure FirstAt (c : Cursor) (alternatives : List (Parser α)) (k : Nat) (a : α)
    (d : Cursor) : Prop where
  succeeds : ∃ p, alternatives[k]? = some p ∧ p.Succeeds c a d
  fails (j : Nat) : j < k → ∃ p e stop, alternatives[j]? = some p ∧ p.Fails c e stop

theorem firstAt_zero {p : Parser α} {ps : List (Parser α)} {a : α} :
    FirstAt c (p :: ps) 0 a d ↔ p.Succeeds c a d := by
  constructor
  · rintro ⟨⟨q, hq, h⟩, _⟩
    cases hq
    exact h
  · intro h
    exact ⟨⟨p, rfl, h⟩, fun j hj ↦ absurd hj (Nat.not_lt_zero j)⟩

theorem firstAt_succ {p : Parser α} {ps : List (Parser α)} {k : Nat} {a : α} :
    FirstAt c (p :: ps) (k + 1) a d ↔ (∃ e stop, p.Fails c e stop) ∧ FirstAt c ps k a d := by
  constructor
  · rintro ⟨hsucceeds, hfails⟩
    obtain ⟨q, e, stop, hq, h⟩ := hfails 0 (Nat.succ_pos k)
    cases hq
    exact ⟨⟨e, stop, h⟩, hsucceeds, fun j hj ↦ hfails (j + 1) (Nat.succ_lt_succ hj)⟩
  · rintro ⟨⟨e, stop, h⟩, hsucceeds, hfails⟩
    refine ⟨hsucceeds, fun j hj ↦ ?_⟩
    cases j with
    | zero => exact ⟨p, e, stop, rfl, h⟩
    | succ j => exact hfails j (Nat.lt_of_succ_lt_succ hj)

theorem firstSucceeds_iff_firstAt {ps : List (Parser α)} {a : α} :
    FirstSucceeds c ps a d ↔ ∃ k, FirstAt c ps k a d := by
  induction ps with
  | nil =>
      refine ⟨fun h ↦ (nomatch h), ?_⟩
      rintro ⟨k, ⟨p, ⟨⟩, _⟩, _⟩
  | cons p ps ih =>
      rw [firstSucceeds_cons, ih]
      constructor
      · rintro (h | ⟨hp, k, hk⟩)
        · exact ⟨0, firstAt_zero.mpr h⟩
        · exact ⟨k + 1, firstAt_succ.mpr ⟨hp, hk⟩⟩
      · rintro ⟨_ | k, hk⟩
        · exact .inl (firstAt_zero.mp hk)
        · obtain ⟨hp, hk⟩ := firstAt_succ.mp hk
          exact .inr ⟨hp, k, hk⟩

/-- Alternatives that all come to an end, and none by a success, all fail. -/
theorem exists_allFail (h : ∀ p ∈ alternatives, p.Ends c ∧ ∀ a d, ¬ p.Succeeds c a d) :
    ∃ es, AllFail c alternatives es := by
  have hends : ∀ before q after, alternatives = before ++ q :: after →
      (∀ b ∈ before, ∃ e d, b.Fails c e d) → q.Ends c := fun before q after hsplit _ ↦
    (h q (by simp [hsplit])).1
  rcases firstSucceeds_or_allFail hends with ⟨a, d, ha⟩ | hfail
  · obtain ⟨p, hp, ha⟩ := ha.exists_mem
    exact absurd ha ((h p hp).2 a d)
  · exact hfail

/-- Alternatives are tried in order, whatever they do before they fail.  The first one that
succeeds on its own from the start decides, with its own value and its own cursor.  Where none
does, the cursor is back at the start, and the failure is that of a choice there; its attempts
are, in order, those of each failure that is a choice with as many bytes left, and each other
failure itself. -/
theorem Tries.in_order (h : Tries combined alternatives) (c : Cursor) :
    (∀ a d, combined.Succeeds c a d ↔ ∃ k, FirstAt c alternatives k a d) ∧
    (∀ e d, combined.Fails c e d ↔ d = c ∧ ∃ es blocks, AllFail c alternatives es ∧
      List.Forall₂ (Failure.Adds c.rest) es blocks ∧
        e = .noAlternative c.rest blocks.flatten) ∧
    ((∀ p ∈ alternatives, p.Ends c ∧ ∀ a d, ¬ p.Succeeds c a d) →
      ∃ e, combined.Fails c e c) := by
  refine ⟨fun a d ↦ ?_, fun e d ↦ ?_, fun hnone ↦ ?_⟩
  · rw [h.succeeds_iff, firstSucceeds_iff_firstAt]
  · rw [h.fails_iff, and_comm]
    refine and_congr_right fun _ ↦ exists_congr fun es ↦ ?_
    rw [Failure.eq_exhausted_iff, exists_and_left]
  · obtain ⟨es, hes⟩ := exists_allFail hnone
    exact ⟨_, h.fails_iff.mpr ⟨⟨es, hes, rfl⟩, rfl⟩⟩

/-- The first alternative leaves the cursor further on, and the second one another text in its
place, with a failure that looks like a choice at the start.  The third one reads its
character from the start all the same; without it the cursor comes back. -/
theorem Tries.in_order_leaky :
    let ahead : Parser Char := ⟨fun c ↦ some ⟨.error .never, c.advance 1, []⟩⟩
    let elsewhere : Parser Char := ⟨fun c ↦
      some ⟨.error (.noAlternative c.rest [.endOfInput, .never]), .start ['n'], []⟩⟩
    let c : Cursor := ⟨['x', 'é', 'y'], 1⟩
    Tries (.choice ahead [elsewhere, .anyChar, .never]) [ahead, elsewhere, .anyChar, .never] ∧
      (Parser.choice ahead [elsewhere, .anyChar, .never]).Succeeds c 'é' ⟨c.source, 3⟩ ∧
      Tries (ahead.orElse elsewhere) [ahead, elsewhere] ∧
      (∀ p ∈ [ahead, elsewhere], p.Ends c ∧ ∀ a d, ¬ p.Succeeds c a d) ∧
      (ahead.orElse elsewhere).Fails c
        (.noAlternative ['é', 'y'] [.never, .endOfInput, .never]) c := by
  intro ahead elsewhere c
  have hahead : ahead.Fails c .never (c.advance 1) := ⟨_, rfl⟩
  have helsewhere : elsewhere.Fails c
    (.noAlternative ['é', 'y'] [.endOfInput, .never]) (.start ['n']) := ⟨_, rfl⟩
  have hchar : Parser.anyChar.Succeeds c 'é' ⟨c.source, 3⟩ := ⟨_, rfl⟩
  have hchoice := Tries.choice ahead [elsewhere, .anyChar, .never]
  have hor := Tries.orElse ahead elsewhere
  have hfirst : FirstAt c [ahead, elsewhere, .anyChar, .never] 2 'é' ⟨c.source, 3⟩ :=
    firstAt_succ.mpr ⟨⟨_, _, hahead⟩,
      firstAt_succ.mpr ⟨⟨_, _, helsewhere⟩, firstAt_zero.mpr hchar⟩⟩
  have hnone : ∀ p ∈ [ahead, elsewhere], p.Ends c ∧ ∀ a d, ¬ p.Succeeds c a d := by
    refine List.forall_mem_cons.mpr ⟨?_, List.forall_mem_singleton.mpr ?_⟩
    · exact ⟨hahead.ends, fun a d ha ↦ ha.not_fails hahead⟩
    · exact ⟨helsewhere.ends, fun a d ha ↦ ha.not_fails helsewhere⟩
  have hall : AllFail c [ahead, elsewhere]
      [.never, .noAlternative ['é', 'y'] [.endOfInput, .never]] :=
    .cons ⟨_, hahead⟩ (.cons ⟨_, helsewhere⟩ .nil)
  obtain ⟨e, he⟩ := (hor.in_order c).2.2 hnone
  obtain ⟨-, es, blocks, hes, hblocks, rfl⟩ := ((hor.in_order c).2.1 e c).mp he
  obtain rfl := hes.unique hall
  obtain rfl := Failure.forall₂_adds_iff.mp hblocks
  exact ⟨hchoice, ((hchoice.in_order c).1 _ _).mpr ⟨2, hfirst⟩, hor, hnone, he⟩

end Backtrack.Parser
