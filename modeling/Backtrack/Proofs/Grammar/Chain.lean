import Backtrack.Proofs.Grammar.Depth
import Backtrack.Proofs.Parser.Lexemes
import Mathlib.Order.Bounds.Basic

/-!
# Chains of literals

Grammars in sequence, as pairs that are nested to the right, form a chain.  A chain of literals
reads what one literal for all of them reads, and ends in the same place
(`Grammar.literals_agree`).  They differ in how they fail: the chain blames the first of its
literals that is not there, with the text in front of which it was asked for.  The literals
before it have been consumed by then, and are given back.
-/

namespace Backtrack

namespace Lexeme

variable {xs : List Text} {t rest : Text} {runs : List Text}

/-- Literals match themselves, one after the other. -/
theorem matchAll_literals :
    MatchAll (xs.map literal) t runs rest ↔ runs = xs ∧ t = xs.flatten ++ rest := by
  induction xs generalizing t runs with
  | nil =>
      constructor
      · intro h
        cases h
        exact ⟨rfl, rfl⟩
      · rintro ⟨rfl, rfl⟩
        exact .nil
  | cons x xs ih =>
      constructor
      · intro h
        cases h with
        | cons hx h =>
            obtain ⟨-, rfl⟩ := matches_literal.mp hx
            obtain ⟨rfl, rfl⟩ := ih.mp h
            exact ⟨rfl, by rw [List.flatten_cons, List.append_assoc]⟩
      · rintro ⟨rfl, rfl⟩
        rw [List.flatten_cons, List.append_assoc]
        exact .cons (.literal (List.prefix_append _ _)) (ih.mpr ⟨rfl, rfl⟩)

/-- The literal that does not match is the first one up to which the text does not start with
all literals together. -/
theorem isLeast_length {before after : List Text} {x : Text} (ht : t = before.flatten ++ rest)
    (hx : ¬ x <+: rest) :
    IsLeast {k | ¬ ((before ++ x :: after).take (k + 1)).flatten <+: t} before.length := by
  subst ht
  constructor
  · have htake : (before ++ x :: after).take (before.length + 1) = before ++ [x] := by
      rw [List.take_append, List.take_of_length_le (Nat.le_succ _), Nat.add_sub_cancel_left]
      rfl
    change ¬ ((before ++ x :: after).take (before.length + 1)).flatten <+: _
    rw [htake, List.flatten_append, List.prefix_append_right_inj]
    simpa using hx
  · intro k hk
    by_contra hlt
    refine hk ?_
    rw [List.take_append_of_le_length (by omega)]
    have hbefore : (before.take (k + 1)).flatten <+: before.flatten :=
      ⟨(before.drop (k + 1)).flatten, by rw [← List.flatten_append, List.take_append_drop]⟩
    exact hbefore.trans (List.prefix_append _ _)

end Lexeme

namespace Grammar

/-- One or more grammars in sequence, as pairs that are nested to the right. -/
def chain (g : Grammar) : List Grammar → Grammar
  | [] => g
  | h :: hs => .zip g (chain h hs)

/-- One or more literals in sequence. -/
def literals (x : Text) (xs : List Text) : Grammar :=
  chain (.literal x) (xs.map .literal)

variable {rules : Rules} {c d : Cursor}

theorem reads_literal (x : Text) (depth : Nat) :
    ((Grammar.literal x).parser rules depth).Reads [.literal x] fun _ ↦ .unit :=
  (Parser.reads_literal x).map fun _ ↦ Value.unit

theorem reads_integer (depth : Nat) :
    (Grammar.integer.parser rules depth).Reads [.number] fun runs ↦
      .int (Int64.ofNat (Nat.ofDigitChars 10 (runs.headD []) 0)) :=
  Parser.reads_integer.map Value.int

theorem reads_zip {a b : Grammar} {depth : Nat} {ls ms : List Lexeme}
    {f g : List Text → Value} (ha : (a.parser rules depth).Reads ls f)
    (hb : (b.parser rules depth).Reads ms g) :
    ((Grammar.zip a b).parser rules depth).Reads (ls ++ ms)
      fun runs ↦ .tuple [f (runs.take ls.length), g (runs.drop ls.length)] :=
  (ha.zip hb).map fun v ↦ Value.tuple [v.1, v.2]

theorem reads_literals (rules : Rules) (x : Text) (xs : List Text) (depth : Nat) :
    ∃ value, ((literals x xs).parser rules depth).Reads ((x :: xs).map .literal) value := by
  induction xs generalizing x with
  | nil => exact ⟨_, reads_literal x depth⟩
  | cons y ys ih =>
      obtain ⟨_, h⟩ := ih y
      exact ⟨_, reads_zip (reads_literal x depth) h⟩

theorem succeeds_literals (hc : c.WellFormed) {x : Text} {xs : List Text} :
    (∃ v, (literals x xs).Succeeds rules c v d) ↔ c.Consumes (x :: xs).flatten d := by
  constructor
  · rintro ⟨v, depth, h⟩
    obtain ⟨value, hreads⟩ := reads_literals rules x xs depth
    obtain ⟨runs, hruns, hd, -⟩ := (hreads.succeeds hc).mp h
    obtain ⟨rfl, -⟩ := Lexeme.matchAll_literals.mp hruns
    exact hd
  · intro hd
    obtain ⟨value, hreads⟩ := reads_literals rules x xs 0
    have hall := Lexeme.matchAll_literals.mpr ⟨rfl, hd.rest⟩
    exact ⟨_, 0, (hreads.succeeds hc).mpr ⟨_, hall, hd, rfl⟩⟩

theorem succeeds_literal (hc : c.WellFormed) {x : Text} :
    (∃ v, (Grammar.literal x).Succeeds rules c v d) ↔ c.Consumes x d := by
  have h : (∃ v, (literals x []).Succeeds rules c v d) ↔ c.Consumes [x].flatten d :=
    succeeds_literals hc
  rwa [List.flatten_singleton] at h

/-- A text is consumed where it comes next, and then just its size is added to the position. -/
theorem consumes_iff_position (hc : c.WellFormed) {t : Text} :
    c.Consumes t d ↔ t <+: c.rest ∧ d = ⟨c.source, c.position + t.byteSize⟩ := by
  constructor
  · intro hd
    exact ⟨⟨d.rest, hd.rest.symm⟩, Cursor.ext hd.source hd.position⟩
  · rintro ⟨⟨u, hu⟩, rfl⟩
    have hd := hc.consumes_advance hu.symm
    have hstop : c.advance t.byteSize = ⟨c.source, c.position + t.byteSize⟩ :=
      Cursor.ext hd.source hd.position
    rwa [hstop] at hd

/-- Literals in sequence succeed exactly where one literal for all of them does, and stop at the
same cursor.  That is where the rest starts with all literals together, and just their size is
added to the position.  Elsewhere there is a first literal up to which the rest does not start
with the literals together.  The sequence fails with that literal and with what comes after those
before it, and leaves the cursor where it was. -/
theorem literals_agree (hc : c.WellFormed) (x : Text) (xs : List Text) :
    (∀ d, (∃ v, (literals x xs).Succeeds rules c v d) ↔
      ∃ v, (Grammar.literal (x :: xs).flatten).Succeeds rules c v d) ∧
    (∀ d, (∃ v, (Grammar.literal (x :: xs).flatten).Succeeds rules c v d) ↔
      (x :: xs).flatten <+: c.rest ∧
        d = ⟨c.source, c.position + Text.byteSize (x :: xs).flatten⟩) ∧
    (¬ (x :: xs).flatten <+: c.rest → ∃ k expected rest,
      IsLeast {k | ¬ ((x :: xs).take (k + 1)).flatten <+: c.rest} k ∧
        (x :: xs)[k]? = some expected ∧ c.rest = ((x :: xs).take k).flatten ++ rest ∧
        (literals x xs).Fails rules c (.missingLiteral expected rest) c) := by
  refine ⟨fun d ↦ ?_, fun d ↦ ?_, fun hnot ↦ ?_⟩
  · rw [succeeds_literals hc, succeeds_literal hc]
  · rw [succeeds_literal hc, consumes_iff_position hc]
  · obtain ⟨value, hreads⟩ := reads_literals rules x xs 0
    rcases Lexeme.matchAll_or_firstRefuses ((x :: xs).map .literal) c.rest with
      ⟨runs, rest, hall⟩ | ⟨e, he⟩
    · obtain ⟨-, hrest⟩ := Lexeme.matchAll_literals.mp hall
      exact absurd ⟨rest, hrest.symm⟩ hnot
    · obtain ⟨before, l, after, runs, rest, hsplit, hbefore, hl, rfl⟩ :=
        Lexeme.firstRefuses_iff.mp he
      obtain ⟨before, after, hxs, rfl, hafter⟩ := List.map_eq_append_iff.mp hsplit
      obtain ⟨expected, after, rfl, rfl, rfl⟩ := List.map_eq_cons_iff.mp hafter
      obtain ⟨rfl, hrest⟩ := Lexeme.matchAll_literals.mp hbefore
      have hmissing : ¬ expected <+: rest := fun h ↦ hl _ (.literal h)
      rw [hxs]
      refine ⟨runs.length, expected, rest, Lexeme.isLeast_length hrest hmissing, by simp, ?_,
        0, (hreads.fails hc).mpr ⟨he, rfl⟩⟩
      rw [List.take_left, hrest]

/-- After an `é`, an empty literal and three that match are consumed as one.  With a wrong letter
behind them, the chain fails in front of that letter and goes back over all of them. -/
theorem literals_agree_symbols :
    let rules : Rules := fun _ ↦ .never
    let text : Text := ['é', 'a', '€', '→', 'b']
    let c : Cursor := ⟨text, 2⟩
    c.WellFormed ∧
      (∃ v, (literals ['a'] [['€'], [], ['→']]).Succeeds rules c v ⟨text, 9⟩) ∧
      (∃ v, (Grammar.literal ['a', '€', '→']).Succeeds rules c v ⟨text, 9⟩) ∧
      (literals ['a'] [['€'], [], ['→', 'x'], ['b']]).Fails rules c
        (.missingLiteral ['→', 'x'] ['→', 'b']) c := by
  intro rules text c
  have hc : c.WellFormed := ⟨⟨['é'], text.tail, rfl, rfl⟩, by decide⟩
  obtain ⟨hiff, hwhole, -⟩ := @literals_agree rules c hc ['a'] [['€'], [], ['→']]
  obtain ⟨-, -, hfails⟩ := @literals_agree rules c hc ['a'] [['€'], [], ['→', 'x'], ['b']]
  have hread : ∃ v, (Grammar.literal ['a', '€', '→']).Succeeds rules c v ⟨text, 9⟩ :=
    (hwhole ⟨text, 9⟩).mpr ⟨⟨['b'], rfl⟩, rfl⟩
  obtain ⟨k, expected, rest, hk, hexpected, hrest, hfails⟩ := hfails (by decide)
  obtain rfl := hk.unique (@Lexeme.isLeast_length _ ['→', 'b'] [['a'], ['€'], []] [['b']]
    ['→', 'x'] rfl (by decide))
  cases hexpected
  obtain rfl : ['→', 'b'] = rest :=
    List.append_cancel_left (show ['a', '€'] ++ ['→', 'b'] = ['a', '€'] ++ rest from hrest)
  exact ⟨hc, (hiff _).mpr hread, hread, hfails⟩

end Grammar

end Backtrack
