import Backtrack.Proofs.Parser.Outcome
import Backtrack.Proofs.Parser.Simulation

/-!
# Tests as conversions

A test of a value can be written as a conversion that gives the value back or refuses it.
The two are not the same parser: where the value is refused, the test puts the cursor back
and fails at the start of the value, and the conversion leaves the cursor behind the value
and fails there.

Inside a grammar the difference decides nothing.  Choices do look into the failures of their
alternatives, to splice the attempts of some of them, but whether they go on does not depend
on that, and the cursor of a failure is put elsewhere before anything reads from it.  So
tests can be replaced by conversions at any places of a grammar and of its rules, and every
run succeeds as before, with the same value and the same rest (`Exchanged.run_toOption`).
Failures and traces do change.
-/

namespace Backtrack

variable {α : Type}

namespace Parser

/-- The conversion that gives back a value that passes the test and refuses all others. -/
def approve (keep : α → Bool) (reason : Text) (a : α) : Except Text α :=
  if keep a then .ok a else .error reason

theorem approve_of_true {keep : α → Bool} {a : α} (reason : Text) (h : keep a = true) :
    approve keep reason a = .ok a := if_pos h

theorem approve_of_false {keep : α → Bool} {a : α} (reason : Text) (h : keep a = false) :
    approve keep reason a = .error reason := by
  rw [approve, h]
  rfl

end Parser

/-- All failures are alike, and all events. -/
def Tolerance.any : Tolerance where
  failure _ _ := True
  event _ _ := True
  failure_refl _ := trivial
  event_refl _ := trivial
  exhausted _ _ _ _ := trivial
  firstFailed _ := trivial
  alternativeFailed _ _ _ _ := trivial
  stageFailed _ := trivial
  rolledBack _ _ := trivial

/-- Alike replies have the same value, or both have none. -/
theorem Reply.Alike.toOption_outcome {T : Tolerance} {r s : Reply α} (h : r.Alike T s) :
    r.outcome.toOption = s.outcome.toOption := by
  cases h with
  | ok _ => rfl
  | error _ _ => rfl

namespace Parser

/-- A test is alike to its conversion, if neither failures nor events matter. -/
theorem Simulates.filter_tryMap {p p' : Parser α} (keep : α → Bool) (reason : Text)
    (hp : p.Simulates .any p') :
    (p.filter keep reason).Simulates .any (p'.tryMap (approve keep reason)) := by
  intro c
  rw [parse_filter, parse_tryMap]
  rcases hp.dest c with ⟨h, h'⟩ | ⟨a, d, xs, ys, h, h', hxs⟩ |
    ⟨e, e', d, d', xs, ys, h, h', he, hxs⟩
  · rw [h, h']
    exact .none
  · rw [h, h']
    cases hk : keep a with
    | true =>
        simp only [hk, if_true, approve_of_true reason hk]
        exact .some (.ok hxs)
    | false =>
        simp only [hk, Bool.false_eq_true, if_false, approve_of_false reason hk]
        exact .some (.error trivial hxs)
  · rw [h, h']
    exact .some (.error he hxs)

/-- Where the value is refused, the test fails at its start and the conversion at its end. -/
theorem Succeeds.fails_filter_tryMap {p : Parser α} {c d : Cursor} {a : α} {keep : α → Bool}
    (h : p.Succeeds c a d) (hk : keep a = false) (reason : Text) :
    (p.filter keep reason).Fails c (.rejected reason c.rest) c ∧
      (p.tryMap (approve keep reason)).Fails c (.rejected reason d.rest) d :=
  ⟨fails_filter.mpr (.inr ⟨⟨a, d, h, hk⟩, rfl, rfl⟩),
    fails_tryMap.mpr (.inr ⟨a, reason, h, approve_of_false reason hk, rfl⟩)⟩

end Parser

namespace Grammar

/-- The second grammar is the first one with the conversion in the place of some of its
tests. -/
inductive Exchanged : Grammar → Grammar → Prop
  | refl (g : Grammar) : Exchanged g g
  | test {a a' : Grammar} (keep : Value → Bool) (reason : Text) :
      Exchanged a a' → Exchanged (.filter a keep reason) (.tryMap a' (Parser.approve keep reason))
  | zip {a a' b b' : Grammar} :
      Exchanged a a' → Exchanged b b' → Exchanged (.zip a b) (.zip a' b')
  | zip3 {a a' b b' c c' : Grammar} :
      Exchanged a a' → Exchanged b b' → Exchanged c c' →
        Exchanged (.zip3 a b c) (.zip3 a' b' c')
  | orElse {a a' b b' : Grammar} :
      Exchanged a a' → Exchanged b b' → Exchanged (.orElse a b) (.orElse a' b')
  | choice {a a' : Grammar} {bs bs' : List Grammar} :
      Exchanged a a' → bs.length = bs'.length →
        (∀ {b b' : Grammar}, (b, b') ∈ bs.zip bs' → Exchanged b b') →
          Exchanged (.choice a bs) (.choice a' bs')
  | map {a a' : Grammar} (f : Value → Value) :
      Exchanged a a' → Exchanged (.map a f) (.map a' f)
  | tryMap {a a' : Grammar} (f : Value → Except Text Value) :
      Exchanged a a' → Exchanged (.tryMap a f) (.tryMap a' f)
  | filter {a a' : Grammar} (keep : Value → Bool) (reason : Text) :
      Exchanged a a' → Exchanged (.filter a keep reason) (.filter a' keep reason)
  | flatMap {a a' : Grammar} {k k' : Value → Grammar} :
      Exchanged a a' → (∀ v, Exchanged (k v) (k' v)) → Exchanged (.flatMap a k) (.flatMap a' k')

variable {rules rules' : Rules} {g g' : Grammar}

theorem Exchanged.simulates_interpret {env env' : String → Parser Value}
    (henv : ∀ name, (env name).Simulates .any (env' name)) (h : g.Exchanged g') :
    (g.interpret env).Simulates .any (g'.interpret env') := by
  induction h with
  | refl g => exact Parser.congruence_simulates.interpret henv g
  | test keep reason _ ha => exact ha.filter_tryMap keep reason
  | zip _ _ ha hb => exact (ha.zip hb).map _
  | zip3 _ _ _ ha hb hc => exact (ha.zip (hb.zip hc)).map _
  | orElse _ _ ha hb => exact ha.orElse hb
  | choice _ hlen _ ha hbs =>
      rw [interpret, interpret, interpretAll_eq_map, interpretAll_eq_map]
      refine ha.choice ?_
      rw [List.forall₂_map_left_iff, List.forall₂_map_right_iff, List.forall₂_iff_zip]
      exact ⟨hlen, hbs⟩
  | map f _ ha => exact ha.map f
  | tryMap f _ ha => exact ha.tryMap f
  | filter keep reason _ ha => exact ha.filter keep reason
  | flatMap _ _ ha hk => exact ha.flatMap hk

theorem Exchanged.simulates_rule (hr : ∀ name, (rules name).Exchanged (rules' name))
    (depth : Nat) (name : String) :
    (rules.parser depth name).Simulates .any (rules'.parser depth name) := by
  induction depth generalizing name with
  | zero => exact .refl _
  | succ depth ih => exact (hr name).simulates_interpret ih

/-- Replacing tests by conversions, at any places of a grammar and of its rules, changes
neither whether a run succeeds nor the value and the rest that it then gives.  It changes
failures: where a value is refused, both fail with the same reason, but the test with the
cursor and the rest at the start of the value and the conversion with both at its end. -/
theorem Exchanged.run_toOption (hr : ∀ name, (rules name).Exchanged (rules' name))
    (hg : g.Exchanged g') :
    (∀ depth input,
      ((g.parser rules depth).run input).map (fun r ↦ r.outcome.toOption) =
        ((g'.parser rules' depth).run input).map fun r ↦ r.outcome.toOption) ∧
    ∀ {α : Type} (p : Parser α) (keep : α → Bool) (reason : Text) (c : Cursor) (a : α)
      (d : Cursor), p.Succeeds c a d → keep a = false →
        (p.filter keep reason).Fails c (.rejected reason c.rest) c ∧
          (p.tryMap (Parser.approve keep reason)).Fails c (.rejected reason d.rest) d := by
  refine ⟨fun depth input ↦ ?_, fun p keep reason c a d h hk ↦ h.fails_filter_tryMap hk reason⟩
  have h : (g.parser rules depth).Simulates .any (g'.parser rules' depth) :=
    hg.simulates_interpret (simulates_rule hr depth)
  have hrun := h.run input
  revert hrun
  generalize (g.parser rules depth).run input = o
  generalize (g'.parser rules' depth).run input = o'
  intro hrun
  cases hrun with
  | none => rfl
  | some halike => exact congrArg some halike.toOption_outcome

/-- A rule tests a run of letters, and the first alternative tests the character behind it
and refuses it.  A script moves on and fails, and the last alternative keeps the letters.
With conversions for both tests the run gives the same; the refusals themselves differ. -/
theorem Exchanged.run_toOption_letters :
    let letters : Grammar := .span fun ch ↦ ch = 'é'
    let keep : Value → Bool := fun v ↦ v ≠ .str []
    let no : Text := ['n', 'o']
    let rules : Rules := fun _ ↦ .filter letters keep no
    let rules' : Rules := fun _ ↦ .tryMap letters (Parser.approve keep no)
    let script : Grammar := .script (.advance 1 (.stop (.error .never)))
    let last : Grammar := .flatMap (.rule "word") .always
    let g : Grammar :=
      .choice (.zip (.rule "word") (.filter .anyChar (fun _ ↦ false) no)) [script, last]
    let g' : Grammar :=
      .choice (.zip (.rule "word") (.tryMap .anyChar (Parser.approve (fun _ ↦ false) no)))
        [script, last]
    let input : Text := ['é', '1']
    let c : Cursor := .start input
    (∀ name, (rules name).Exchanged (rules' name)) ∧ g.Exchanged g' ∧
      ((g'.parser rules' 1).run input).map (fun r ↦ r.outcome.toOption) =
        some (some (.str ['é'], ['1'])) ∧
      Parser.anyChar.Succeeds c 'é' ⟨input, 2⟩ ∧
      (Parser.anyChar.filter (fun _ ↦ false) no).Fails c (.rejected no input) c ∧
      (Parser.anyChar.tryMap (Parser.approve (fun _ ↦ false) no)).Fails c
        (.rejected no ['1']) ⟨input, 2⟩ := by
  intro letters keep no rules rules' script last g g' input c
  have hr : ∀ name, (rules name).Exchanged (rules' name) := fun _ ↦ .test keep no (.refl _)
  have hg : g.Exchanged g' := by
    refine .choice (.zip (.refl _) (.test _ no (.refl _))) rfl fun {b b'} hb ↦ ?_
    rcases List.mem_pair.mp hb with ⟨⟨⟩⟩ | ⟨⟨⟩⟩
    · exact .refl script
    · exact .refl last
  have hchar : Parser.anyChar.Succeeds c 'é' ⟨input, 2⟩ := ⟨_, rfl⟩
  obtain ⟨hrun, hrefused⟩ := run_toOption hr hg
  exact ⟨hr, hg, (hrun 1 input).symm, hchar,
    hrefused Parser.anyChar (fun _ ↦ false) no c 'é' ⟨input, 2⟩ hchar rfl⟩

end Grammar

end Backtrack
