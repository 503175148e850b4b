import Backtrack.Parser.Run
import Backtrack.Proofs.Grammar.Congruence

/-!
# Parsers that differ only when they fail

After a failure the cursor is dead: every combinator either passes the failure on or
puts the cursor elsewhere before anything looks at it.  So two parsers that succeed
alike, and whose failures are alike in some sense, may leave the cursor of a failure at
different places, and no combinator tells them apart (`congruence_simulates`).

What alike means for failures and events is a `Tolerance`.  It only has to respect the
way in which failures go into the failures and events of the combinators.
-/

namespace Backtrack

/-- Which failures and which events count as alike. -/
structure Tolerance where
  /-- The failures that count as alike. -/
  failure : Failure → Failure → Prop
  /-- The events that count as alike. -/
  event : Event → Event → Prop
  failure_refl (e : Failure) : failure e e
  event_refl (x : Event) : event x x
  exhausted (rest : Text) {es fs : List Failure} :
    List.Forall₂ failure es fs → failure (.exhausted rest es) (.exhausted rest fs)
  firstFailed {e f : Failure} : failure e f → event (.firstFailed e) (.firstFailed f)
  alternativeFailed (index : Nat) {e f : Failure} :
    failure e f → event (.alternativeFailed index e) (.alternativeFailed index f)
  stageFailed {e f : Failure} : failure e f → event (.stageFailed e) (.stageFailed f)
  rolledBack (m n : Nat) : event (.rolledBack m) (.rolledBack n)

variable {T : Tolerance} {α β : Type}

/-- The replies are alike: the same value and cursor after alike events, or alike
failures after alike events, with the cursor anywhere. -/
inductive Reply.Alike (T : Tolerance) : Reply α → Reply α → Prop
  | ok {a : α} {d : Cursor} {xs ys : List Event} :
      List.Forall₂ T.event xs ys → Alike T ⟨.ok a, d, xs⟩ ⟨.ok a, d, ys⟩
  | error {e f : Failure} {d d' : Cursor} {xs ys : List Event} :
      T.failure e f → List.Forall₂ T.event xs ys →
        Alike T ⟨.error e, d, xs⟩ ⟨.error f, d', ys⟩

theorem Tolerance.events_refl (xs : List Event) : List.Forall₂ T.event xs xs :=
  List.forall₂_same.mpr fun x _ ↦ T.event_refl x

theorem Reply.Alike.refl (r : Reply α) : r.Alike T r := by
  obtain ⟨_ | a, d, xs⟩ := r
  · exact .error (T.failure_refl _) (T.events_refl xs)
  · exact .ok (T.events_refl xs)

theorem Reply.Alike.after {r s : Reply α} {xs ys : List Event} (h : r.Alike T s)
    (hxs : List.Forall₂ T.event xs ys) : (r.after xs).Alike T (s.after ys) := by
  cases h with
  | ok hus =>
      rw [after_mk, after_mk]
      exact .ok (List.rel_append hxs hus)
  | error he hus =>
      rw [after_mk, after_mk]
      exact .error he (List.rel_append hxs hus)

/-- Alike replies stay alike behind alike events. -/
theorem Reply.rel_map_after {o o' : Option (Reply α)} {xs ys : List Event}
    (h : Option.Rel (Reply.Alike T) o o') (hxs : List.Forall₂ T.event xs ys) :
    Option.Rel (Reply.Alike T) (o.map (Reply.after xs)) (o'.map (Reply.after ys)) := by
  cases h with
  | none => exact .none
  | some h => exact .some (h.after hxs)

namespace Parser

/-- From every cursor both parsers come to no end, or their replies are alike. -/
def Simulates (T : Tolerance) (p q : Parser α) : Prop :=
  ∀ c, Option.Rel (Reply.Alike T) (p.parse c) (q.parse c)

/-- What two alike parsers do at a cursor. -/
theorem Simulates.dest {p q : Parser α} (h : p.Simulates T q) (c : Cursor) :
    (p.parse c = none ∧ q.parse c = none) ∨
    (∃ a d xs ys, p.parse c = some ⟨.ok a, d, xs⟩ ∧ q.parse c = some ⟨.ok a, d, ys⟩ ∧
      List.Forall₂ T.event xs ys) ∨
    (∃ e f d d' xs ys, p.parse c = some ⟨.error e, d, xs⟩ ∧
      q.parse c = some ⟨.error f, d', ys⟩ ∧ T.failure e f ∧ List.Forall₂ T.event xs ys) := by
  have hc := h c
  rcases hp : p.parse c with _ | r <;> rcases hq : q.parse c with _ | s <;> rw [hp, hq] at hc
  · exact .inl ⟨rfl, rfl⟩
  · cases hc
  · cases hc
  · cases hc with
    | some hrs =>
        cases hrs with
        | ok hxs => exact .inr (.inl ⟨_, _, _, _, rfl, rfl, hxs⟩)
        | error he hxs => exact .inr (.inr ⟨_, _, _, _, _, _, rfl, rfl, he, hxs⟩)

theorem Simulates.refl (p : Parser α) : p.Simulates T p := by
  intro c
  cases p.parse c with
  | none => exact .none
  | some r => exact .some (.refl r)

variable {p p' : Parser α}

theorem Simulates.map (f : α → β) (hp : p.Simulates T p') :
    (p.map f).Simulates T (p'.map f) := by
  intro c
  rw [parse_map, parse_map]
  rcases hp.dest c with ⟨h, h'⟩ | ⟨a, d, xs, ys, h, h', hxs⟩ |
    ⟨e, e', d, d', xs, ys, h, h', he, hxs⟩
  · rw [h, h']
    exact .none
  · rw [h, h']
    exact .some (.ok hxs)
  · rw [h, h']
    exact .some (.error he hxs)

theorem Simulates.tryMap (f : α → Except Text β) (hp : p.Simulates T p') :
    (p.tryMap f).Simulates T (p'.tryMap f) := by
  intro c
  rw [parse_tryMap, parse_tryMap]
  rcases hp.dest c with ⟨h, h'⟩ | ⟨a, d, xs, ys, h, h', hxs⟩ |
    ⟨e, e', d, d', xs, ys, h, h', he, hxs⟩
  · rw [h, h']
    exact .none
  · rw [h, h']
    cases hf : f a with
    | ok b =>
        simp only [hf]
        exact .some (.ok hxs)
    | error reason =>
        simp only [hf]
        exact .some (.error (T.failure_refl _) hxs)
  · rw [h, h']
    exact .some (.error he hxs)

theorem Simulates.filter (keep : α → Bool) (reason : Text) (hp : p.Simulates T p') :
    (p.filter keep reason).Simulates T (p'.filter keep reason) := by
  intro c
  rw [parse_filter, parse_filter]
  rcases hp.dest c with ⟨h, h'⟩ | ⟨a, d, xs, ys, h, h', hxs⟩ |
    ⟨e, e', d, d', xs, ys, h, h', he, hxs⟩
  · rw [h, h']
    exact .none
  · rw [h, h']
    cases hk : keep a with
    | true =>
        simp only [hk, if_true]
        exact .some (.ok hxs)
    | false =>
        simp only [hk, Bool.false_eq_true, if_false]
        exact .some (.error (T.failure_refl _) hxs)
  · rw [h, h']
    exact .some (.error he hxs)

theorem Simulates.zip {q q' : Parser β} (hp : p.Simulates T p') (hq : q.Simulates T q') :
    (p.zip q).Simulates T (p'.zip q') := by
  intro c
  rw [parse_zip, parse_zip]
  rcases hp.dest c with ⟨h, h'⟩ | ⟨a, m, xs, ys, h, h', hxs⟩ |
    ⟨e, e', d, d', xs, ys, h, h', he, hxs⟩
  · rw [h, h']
    exact .none
  · rw [h, h']
    rcases hq.dest m with ⟨k, k'⟩ | ⟨b, d, us, vs, k, k', hus⟩ |
      ⟨e, e', d, d', us, vs, k, k', he, hus⟩
    · simp only [k, k']
      exact .none
    · simp only [k, k']
      exact .some (.ok (List.rel_append hxs hus))
    · simp only [k, k']
      exact .some (.error he
        (List.rel_append hxs (List.rel_append hus (.cons (T.rolledBack _ _) .nil))))
  · rw [h, h']
    exact .some (.error he hxs)

theorem Simulates.flatMap {k k' : α → Parser β} (hp : p.Simulates T p')
    (hk : ∀ a, (k a).Simulates T (k' a)) : (p.flatMap k).Simulates T (p'.flatMap k') := by
  intro c
  rw [parse_flatMap, parse_flatMap]
  rcases hp.dest c with ⟨h, h'⟩ | ⟨a, m, xs, ys, h, h', hxs⟩ |
    ⟨e, e', d, d', xs, ys, h, h', he, hxs⟩
  · rw [h, h']
    exact .none
  · rw [h, h']
    rcases (hk a).dest m with ⟨l, l'⟩ | ⟨b, d, us, vs, l, l', hus⟩ |
      ⟨e, e', d, d', us, vs, l, l', he, hus⟩
    · simp only [l, l']
      exact .none
    · simp only [l, l']
      exact .some (.ok (List.rel_append hxs hus))
    · simp only [l, l']
      exact .some (.error he
        (List.rel_append hxs (List.rel_append hus (.cons (T.stageFailed he) .nil))))
  · rw [h, h']
    exact .some (.error he hxs)

theorem Simulates.orElse {q q' : Parser α} (hp : p.Simulates T p') (hq : q.Simulates T q') :
    (p.orElse q).Simulates T (p'.orElse q') := by
  intro c
  rw [parse_orElse, parse_orElse]
  rcases hp.dest c with ⟨h, h'⟩ | ⟨a, d, xs, ys, h, h', hxs⟩ |
    ⟨e, e', d, d', xs, ys, h, h', he, hxs⟩
  · rw [h, h']
    exact .none
  · rw [h, h']
    exact .some (.ok hxs)
  · -- The first failure's cursor is left behind: the second parser starts from `c`.
    rw [h, h']
    rcases hq.dest c with ⟨k, k'⟩ | ⟨b, m, us, vs, k, k', hus⟩ |
      ⟨f, f', m, m', us, vs, k, k', hf, hus⟩
    · simp only [k, k']
      exact .none
    · simp only [k, k']
      exact .some (.ok (List.rel_append hxs (.cons (T.firstFailed he) hus)))
    · simp only [k, k']
      exact .some (.error (T.exhausted _ (.cons he (.cons hf .nil)))
        (List.rel_append hxs (.cons (T.firstFailed he) hus)))

/-- Two lists of alternatives that are alike one by one, after alike failures. -/
theorem simulates_firstOf (start : Cursor) {ps qs : List (Parser α)}
    (h : List.Forall₂ (Simulates T) ps qs) (index : Nat) {failed failed' : List Failure}
    (hf : List.Forall₂ T.failure failed failed') {c c' : Cursor} :
    Option.Rel (Reply.Alike T) ((firstOf start index failed ps).parse c)
      ((firstOf start index failed' qs).parse c') := by
  induction h generalizing index failed failed' c c' with
  | nil => exact .some (.error (T.exhausted _ hf) .nil)
  | @cons p q ps qs hp _ ih =>
      rw [parse_firstOf_cons, parse_firstOf_cons]
      rcases hp.dest start with ⟨h, h'⟩ | ⟨a, d, xs, ys, h, h', hxs⟩ |
        ⟨e, e', d, d', xs, ys, h, h', he, hxs⟩
      · rw [h, h']
        exact .none
      · rw [h, h']
        exact .some (.ok hxs)
      · rw [h, h']
        exact Reply.rel_map_after (ih (index + 1) (List.rel_append hf (.cons he .nil)))
          (List.rel_append hxs (.cons (T.alternativeFailed index he) .nil))

theorem Simulates.choice {qs qs' : List (Parser α)} (hp : p.Simulates T p')
    (hqs : List.Forall₂ (Simulates T) qs qs') :
    (Parser.choice p qs).Simulates T (Parser.choice p' qs') := by
  intro c
  rw [parse_choice, parse_choice]
  exact simulates_firstOf c (.cons hp hqs) 0 .nil

/-- No combinator tells alike parsers apart. -/
theorem congruence_simulates : Congruence fun ⦃α⦄ ↦ Simulates (α := α) T where
  refl := .refl
  map f := .map f
  tryMap f := .tryMap f
  filter keep reason := .filter keep reason
  zip := .zip
  flatMap := .flatMap
  orElse := .orElse
  choice := .choice

/-- Alike parsers have alike runs. -/
theorem Simulates.run (hp : p.Simulates T p') (input : Text) :
    Option.Rel (Reply.Alike T) (p.run input) (p'.run input) := by
  rw [run_eq, run_eq]
  rcases hp.dest (.start input) with ⟨h, h'⟩ | ⟨a, d, xs, ys, h, h', hxs⟩ |
    ⟨e, e', d, d', xs, ys, h, h', he, hxs⟩
  · rw [h, h']
    exact .none
  · rw [h, h']
    exact .some (.ok (List.rel_append hxs (T.events_refl _)))
  · rw [h, h']
    exact .some (.error he hxs)

end Parser

end Backtrack
