import Backtrack.Parser.Lexical
import Backtrack.Parser.Sequence
import Mathlib.Data.List.Infix

/-!
# What sequences and choices note

A sequence of two stages notes something behind what the stages have noted, if the second
one fails.  A choice notes why it gives an alternative up, with the alternative's number,
behind what the alternative has noted.  So the trace of a choice is the traces of its
alternatives with a note behind each one that failed, and the numbers of the notes count up
from zero (`givenUp`).  The notes that a choice inside an alternative makes look the same;
what tells them apart is where they stand.

What the parts do is given here by the replies that they can give.  So the same is said of
parsers and of grammars, whose replies do not depend on a depth.
-/

namespace Backtrack

/-! ## Places in a trace -/

/-- What comes after the trace `pre` in two traces, one after the other, is in the first of
them, or it is in the second one and all of the first one is before it. -/
theorem concat_prefix_append {pre xs ys : List Event} {x : Event}
    (h : pre ++ [x] <+: xs ++ ys) :
    pre ++ [x] <+: xs ∨ ∃ own, pre = xs ++ own ∧ own ++ [x] <+: ys := by
  rcases List.prefix_or_prefix_of_prefix h (List.prefix_append xs ys) with hxs | hxs
  · exact .inl hxs
  · rcases List.prefix_concat_iff.mp hxs with rfl | ⟨own, rfl⟩
    · exact .inl List.prefix_rfl
    · rw [List.append_assoc, List.prefix_append_right_inj] at h
      exact .inr ⟨own, rfl, h⟩

theorem concat_prefix_cons {pre ys : List Event} {x y : Event} (h : pre ++ [x] <+: y :: ys) :
    (pre = [] ∧ x = y) ∨ ∃ own, pre = y :: own ∧ own ++ [x] <+: ys := by
  cases pre with
  | nil => exact .inl ⟨rfl, (List.cons_prefix_cons.mp h).1⟩
  | cons z own =>
      obtain ⟨rfl, hown⟩ := List.cons_prefix_cons.mp h
      exact .inr ⟨own, rfl, hown⟩

theorem concat_prefix_singleton {pre : List Event} {x y : Event} (h : pre ++ [x] <+: [y]) :
    pre = [] ∧ x = y := by
  rcases concat_prefix_cons h with hy | ⟨own, -, hnil⟩
  · exact hy
  · simp at hnil

theorem concat_prefix_of_eq {xs pre ys : List Event} {x : Event} (h : xs = pre ++ x :: ys) :
    pre ++ [x] <+: xs :=
  ⟨ys, by rw [h, List.append_assoc, List.singleton_append]⟩

namespace Parser

variable {α β : Type} {c : Cursor}

/-! ## Parsers that note nothing -/

/-- The parser leaves no events. -/
def Silent (p : Parser α) : Prop := ∀ c r, p.parse c = some r → r.events = []

theorem silent_anyChar : Silent anyChar := by
  intro c r h
  rw [parse_anyChar] at h
  split at h <;> cases h <;> rfl

theorem silent_literal (expected : Text) : Silent (literal expected) := by
  intro c r h
  rw [parse_literal] at h
  split at h <;> cases h <;> rfl

theorem silent_span (accepts : Char → Bool) : Silent (span accepts) := by
  intro c r h
  rw [parse_span] at h
  cases h
  rfl

theorem silent_integer : Silent integer := by
  intro c r h
  rw [parse_integer] at h
  split at h <;> cases h <;> rfl

/-- What is transformed is only the value. -/
theorem parse_map_eq_some {p : Parser α} {f : α → β} {r : Reply β} :
    (p.map f).parse c = some r ↔
      ∃ s, p.parse c = some s ∧ r = ⟨s.outcome.map f, s.cursor, s.events⟩ := by
  rw [parse_map]
  rcases p.parse c with _ | ⟨_ | a, d, es⟩ <;> simp [Except.map, eq_comm]

theorem Silent.map {p : Parser α} (f : α → β) (h : p.Silent) : (p.map f).Silent := by
  intro c r hr
  obtain ⟨s, hs, rfl⟩ := parse_map_eq_some.mp hr
  exact h c s hs

/-! ## Two stages -/

/-- What a sequence of two stages notes, if its stages can give the replies of `First` and
`Next`. -/
inductive Sequenced (First : Reply α → Prop) (Next : α → Cursor → Reply β → Prop)
    (report : Cursor → Failure → Event) : List Event → Prop
  /-- The first stage fails, and the failure passes through. -/
  | failed {e : Failure} {m : Cursor} {es : List Event} :
      First ⟨.error e, m, es⟩ → Sequenced First Next report es
  /-- Both stages succeed. -/
  | through {a : α} {b : β} {m d : Cursor} {es fs : List Event} :
      First ⟨.ok a, m, es⟩ → Next a m ⟨.ok b, d, fs⟩ → Sequenced First Next report (es ++ fs)
  /-- The second stage fails, and what the first one consumed is taken back. -/
  | takenBack {a : α} {e : Failure} {m stop : Cursor} {es fs : List Event} :
      First ⟨.ok a, m, es⟩ → Next a m ⟨.error e, stop, fs⟩ →
        Sequenced First Next report (es ++ (fs ++ [report stop e]))

theorem sequenced_within {γ : Type} {p : Parser α} {k : α → Parser β} {f : α → β → γ}
    {report : Cursor → Failure → Event} {r : Reply γ}
    (h : (do let a ← p; let b ← (k a).within c report; return f a b : Parser γ).parse c =
      some r) :
    Sequenced (fun s ↦ p.parse c = some s) (fun a m s ↦ (k a).parse m = some s) report
      r.events := by
  rw [parse_bind] at h
  split at h
  · cases h
  · next a m es hp =>
      rw [parse_bind, parse_within] at h
      rcases hk : (k a).parse m with _ | ⟨e | b, d, fs⟩
      · simp [hk] at h
      · simp only [hk, Option.map_some, Option.some.injEq] at h
        subst h
        rw [Reply.events_after]
        exact .takenBack hp hk
      · simp only [hk, parse_pure, Option.map_some, Option.some.injEq] at h
        subst h
        simpa using Sequenced.through hp hk
  · next e m es hp =>
      cases h
      exact .failed hp

theorem sequenced_zip {p : Parser α} {q : Parser β} {r : Reply (α × β)}
    (h : (p.zip q).parse c = some r) :
    Sequenced (fun s ↦ p.parse c = some s) (fun _ m s ↦ q.parse m = some s)
      (fun stop _ ↦ .rolledBack (stop.position - c.position)) r.events := by
  rw [zip, parse_here_bind] at h
  exact sequenced_within h

theorem sequenced_flatMap {p : Parser α} {k : α → Parser β} {r : Reply β}
    (h : (p.flatMap k).parse c = some r) :
    Sequenced (fun s ↦ p.parse c = some s) (fun a m s ↦ (k a).parse m = some s)
      (fun _ e ↦ .stageFailed e) r.events := by
  rw [flatMap, parse_here_bind] at h
  refine sequenced_within (f := fun _ b ↦ b) ?_
  simpa only [bind_pure] using h

theorem Sequenced.mono {γ : Type} {First : Reply α → Prop} {Next : α → Cursor → Reply β → Prop}
    {Next' : α → Cursor → Reply γ → Prop} {report : Cursor → Failure → Event}
    {es : List Event} (f : β → γ)
    (hnext : ∀ a m s, Next a m s → Next' a m ⟨s.outcome.map f, s.cursor, s.events⟩)
    (h : Sequenced First Next report es) : Sequenced First Next' report es := by
  cases h with
  | failed hp => exact .failed hp
  | through hp hq => exact .through hp (hnext _ _ _ hq)
  | takenBack hp hq => exact .takenBack hp (hnext _ _ _ hq)

/-- A choice of two notes what the first one does, or a note and what the second one does
behind it. -/
theorem orElse_ends {p q : Parser α} {r : Reply α} (h : (p.orElse q).parse c = some r) :
    (∃ a d, p.parse c = some ⟨.ok a, d, r.events⟩) ∨
    ∃ e d es s, p.parse c = some ⟨.error e, d, es⟩ ∧ q.parse c = some s ∧
      r.events = es ++ .firstFailed e :: s.events := by
  rw [parse_orElse] at h
  split at h
  · cases h
  · next a d es hp =>
      cases h
      exact .inl ⟨a, d, hp⟩
  · next e d es hp =>
      split at h
      · cases h
      · next a d' fs hq =>
          cases h
          exact .inr ⟨e, d, es, _, hp, hq, rfl⟩
      · next e' d' fs hq =>
          cases h
          exact .inr ⟨e, d, es, _, hp, hq, rfl⟩

end Parser

/-! ## Alternatives that are given up -/

/-- What an alternative that was given up left: why it failed, and what it had noted. -/
structure Attempt where
  failure : Failure
  events : List Event

/-- The trace of alternatives that are given up one after the other, where the first one has
the given number. -/
def givenUp : Nat → List Attempt → List Event
  | _, [] => []
  | index, x :: xs => x.events ++ .alternativeFailed index x.failure :: givenUp (index + 1) xs

/-- The lines that show alternatives which are given up one after the other: for each one those
of what it had noted, and then one with its place among them and why it failed. -/
def givenUpLines (xs : List Attempt) : List Text :=
  xs.zipIdx.flatMap fun x ↦ x.1.events.map Event.message ++
    ["choice: alternative ".toList ++ Numeral.decimal x.2 ++ " failed: ".toList ++
      x.1.failure.message]

theorem map_message_givenUp (xs : List Attempt) :
    (givenUp 0 xs).map Event.message = givenUpLines xs := by
  have hfrom : ∀ index, (givenUp index xs).map Event.message =
      (xs.zipIdx index).flatMap fun x ↦ x.1.events.map Event.message ++
        [(Event.alternativeFailed x.2 x.1.failure).message] := by
    induction xs with
    | nil => exact fun _ ↦ rfl
    | cons x xs ih =>
        intro index
        rw [givenUp, List.zipIdx_cons, List.flatMap_cons, List.map_append, List.map_cons, ih,
          List.append_assoc, List.singleton_append]
  exact hfrom 0

/-- Of the replies that the alternatives can give, this one gives up with the attempt. -/
def GivesUp {ι α : Type} (Answers : ι → Reply α → Prop) (b : ι) (x : Attempt) : Prop :=
  ∃ d, Answers b ⟨.error x.failure, d, x.events⟩

namespace Parser

variable {ι α : Type} {Answers : ι → Reply α → Prop} {start : Cursor} {index : Nat}
  {bs : List ι} {r : Reply α}

/-- How a choice ends whose alternatives answer as given, and what it notes.  The list is of
the alternatives that are left, and the number that of the first of them. -/
inductive Tried (Answers : ι → Reply α → Prop) (start : Cursor) :
    Nat → List ι → Reply α → Prop
  /-- Nothing is left. -/
  | exhausted {index : Nat} {e : Failure} : Tried Answers start index [] ⟨.error e, start, []⟩
  /-- The next alternative succeeds and decides. -/
  | decided {index : Nat} {b : ι} {bs : List ι} {a : α} {d : Cursor} {es : List Event} :
      Answers b ⟨.ok a, d, es⟩ → Tried Answers start index (b :: bs) ⟨.ok a, d, es⟩
  /-- The next alternative fails and is given up. -/
  | refused {index : Nat} {b : ι} {bs : List ι} {e : Failure} {d : Cursor} {es : List Event}
      {r : Reply α} :
      Answers b ⟨.error e, d, es⟩ → Tried Answers start (index + 1) bs r →
        Tried Answers start index (b :: bs) (r.after (es ++ [.alternativeFailed index e]))

theorem tried_of_firstOf {f : ι → Parser α} {failed : List Failure} {c : Cursor}
    (h : (firstOf start index failed (bs.map f)).parse c = some r) :
    Tried (fun b s ↦ (f b).parse start = some s) start index bs r := by
  induction bs generalizing index failed c r with
  | nil =>
      cases h
      exact .exhausted
  | cons b bs ih =>
      rw [List.map_cons, parse_firstOf_cons] at h
      split at h
      · cases h
      · next a d es hb =>
          cases h
          exact .decided hb
      · next e d es hb =>
          obtain ⟨s, hs, rfl⟩ := Option.map_eq_some_iff.mp h
          exact .refused hb (ih hs)

theorem Tried.mono {Answers' : ι → Reply α → Prop} (hA : ∀ b s, Answers b s → Answers' b s)
    (h : Tried Answers start index bs r) : Tried Answers' start index bs r := by
  induction h with
  | exhausted => exact .exhausted
  | decided hb => exact .decided (hA _ _ hb)
  | refused hb _ ih => exact .refused (hA _ _ hb) ih

/-- The choice fails, when all alternatives are given up, or it succeeds with one of them,
when those before it are given up.  In its trace they are numbered from the index on, and
nothing is noted besides. -/
inductive Counted (Answers : ι → Reply α → Prop) (start : Cursor) (index : Nat) :
    List ι → Reply α → Prop
  | failed {bs : List ι} {xs : List Attempt} {e : Failure} :
      List.Forall₂ (GivesUp Answers) bs xs →
        Counted Answers start index bs ⟨.error e, start, givenUp index xs⟩
  | succeeded {before after : List ι} {b : ι} {xs : List Attempt} {a : α} {d : Cursor}
      {es : List Event} :
      List.Forall₂ (GivesUp Answers) before xs → Answers b ⟨.ok a, d, es⟩ →
        Counted Answers start index (before ++ b :: after) ⟨.ok a, d, givenUp index xs ++ es⟩

theorem Tried.counted (h : Tried Answers start index bs r) :
    Counted Answers start index bs r := by
  induction h with
  | exhausted => exact .failed .nil
  | decided hb => exact .succeeded .nil hb
  | @refused index b bs e d es r hb _ ih =>
      have hgives : GivesUp Answers b ⟨e, es⟩ := ⟨d, hb⟩
      cases ih with
      | @failed _ xs e' hxs =>
          have hall : Counted Answers start index (b :: bs) ⟨.error e', start, _⟩ :=
            .failed (.cons hgives hxs)
          simpa [givenUp] using hall
      | @succeeded before after b' xs a d' fs hxs hb' =>
          have hfirst : Counted Answers start index (b :: before ++ b' :: after)
              ⟨.ok a, d', _⟩ := .succeeded (.cons hgives hxs) hb'
          simpa [givenUp] using hfirst

/-- The lines of a choice: one of its own for each alternative, if it fails, and for each one
before that which succeeds otherwise, whose lines come last. -/
theorem Counted.lines (h : Counted Answers start 0 bs r) :
    (∃ e xs, r.outcome = .error e ∧ List.Forall₂ (GivesUp Answers) bs xs ∧
      r.events.map Event.message = givenUpLines xs) ∨
    ∃ a before b after xs es, r.outcome = .ok a ∧ bs = before ++ b :: after ∧
      List.Forall₂ (GivesUp Answers) before xs ∧ Answers b ⟨.ok a, r.cursor, es⟩ ∧
        r.events.map Event.message = givenUpLines xs ++ es.map Event.message := by
  cases h with
  | @failed _ xs e hxs => exact .inl ⟨e, xs, rfl, hxs, map_message_givenUp xs⟩
  | @succeeded before after b xs a d es hxs hb =>
      refine .inr ⟨a, before, b, after, xs, es, rfl, rfl, hxs, hb, ?_⟩
      rw [List.map_append, map_message_givenUp]

/-- Behind alternatives that are given up the choice goes on with the others. -/
theorem Tried.resume (hunique : ∀ b s s', Answers b s → Answers b s' → s = s')
    {before after : List ι} {xs : List Attempt}
    (hbefore : List.Forall₂ (GivesUp Answers) before xs)
    (h : Tried Answers start index (before ++ after) r) :
    ∃ s, Tried Answers start (index + before.length) after s ∧
      r.events = givenUp index xs ++ s.events := by
  induction hbefore generalizing index r with
  | nil => exact ⟨r, h, rfl⟩
  | @cons b x before xs hgives _ ih =>
      -- What is given up has no other reply, so it has not decided.
      obtain ⟨d, hd⟩ := hgives
      cases h with
      | decided hb => cases hunique _ _ _ hb hd
      | refused hb hrest =>
          cases hunique _ _ _ hb hd
          obtain ⟨s, hs, hevents⟩ := ih hrest
          refine ⟨s, ?_, by simp [givenUp, hevents]⟩
          rwa [List.length_cons, Nat.add_comm before.length, ← Nat.add_assoc]

/-- The alternative that comes next is run, and a note is behind it if it fails. -/
theorem Tried.head {b : ι} (h : Tried Answers start index (b :: bs) r) :
    ∃ s, Answers b s ∧ s.events <+: r.events ∧
      ∀ e, s.outcome = .error e → s.events ++ [.alternativeFailed index e] <+: r.events := by
  cases h with
  | decided hb => exact ⟨_, hb, List.prefix_rfl, fun e he ↦ (nomatch he)⟩
  | @refused _ _ _ e d es r hb _ =>
      refine ⟨_, hb, ?_, fun e' he ↦ ?_⟩
      · rw [Reply.events_after, List.append_assoc]
        exact List.prefix_append _ _
      · cases he
        rw [Reply.events_after]
        exact List.prefix_append _ _

/-- Whatever is noted, an alternative notes it, or it is the note behind one. -/
theorem Tried.noted (h : Tried Answers start index bs r) {pre : List Event} {x : Event}
    (hx : pre ++ [x] <+: r.events) :
    ∃ before b after xs s, bs = before ++ b :: after ∧
      List.Forall₂ (GivesUp Answers) before xs ∧ Answers b s ∧
        ((∃ own, pre = givenUp index xs ++ own ∧ own ++ [x] <+: s.events) ∨
          ∃ e, s.outcome = .error e ∧ pre = givenUp index xs ++ s.events ∧
            x = .alternativeFailed (index + before.length) e) := by
  induction h generalizing pre with
  | exhausted => simp at hx
  | @decided index b bs a d es hb =>
      exact ⟨[], b, bs, [], _, rfl, .nil, hb, .inl ⟨pre, rfl, hx⟩⟩
  | @refused index b bs e d es r hb _ ih =>
      rw [Reply.events_after, List.append_assoc, List.singleton_append] at hx
      rcases concat_prefix_append hx with hes | ⟨own, rfl, hown⟩
      · exact ⟨[], b, bs, [], _, rfl, .nil, hb, .inl ⟨pre, rfl, hes⟩⟩
      · rcases concat_prefix_cons hown with ⟨rfl, rfl⟩ | ⟨rest, rfl, hrest⟩
        · exact ⟨[], b, bs, [], _, rfl, .nil, hb, .inr ⟨e, rfl, by simp [givenUp], rfl⟩⟩
        · obtain ⟨before, b', after, xs, s, rfl, hxs, hs, hplace⟩ := ih hrest
          refine ⟨b :: before, b', after, ⟨e, es⟩ :: xs, s, rfl, .cons ⟨d, hb⟩ hxs, hs, ?_⟩
          rcases hplace with ⟨own', rfl, hown'⟩ | ⟨e', he', rfl, rfl⟩
          · exact .inl ⟨own', by simp [givenUp], hown'⟩
          · refine .inr ⟨e', he', by simp [givenUp], ?_⟩
            rw [List.length_cons]
            congr 1
            omega

end Parser

end Backtrack
