import Backtrack.Proofs.Grammar.Congruence
import Backtrack.Proofs.Parser.Outcome

/-!
# Outcomes of a grammar

The depth to which rules are unfolded decides only whether a parser comes to an end.
Once it does, a greater depth changes nothing (`Grammar.parse_mono`).  So a grammar
has outcomes of its own: it succeeds or fails when its parser does so at some depth.
-/

namespace Backtrack

namespace Parser

/-- Wherever `p` comes to an end, `q` does the same. -/
def Extends {α : Type} (p q : Parser α) : Prop :=
  ∀ c, p.parse c = none ∨ p.parse c = q.parse c

theorem extends_firstOf {α : Type} (start : Cursor) {ps qs : List (Parser α)}
    (h : List.Forall₂ Extends ps qs) (index : Nat) (failed : List Failure) :
    (firstOf start index failed ps).Extends (firstOf start index failed qs) := by
  induction h generalizing index failed with
  | nil => exact fun c ↦ .inr rfl
  | @cons p q ps qs hp _ ih =>
      intro c
      rw [parse_firstOf_cons, parse_firstOf_cons]
      rcases hp start with hc | hc
      · exact .inl (by rw [hc])
      · rw [hc]
        rcases q.parse start with _ | ⟨e | a, m, es⟩
        · exact .inl rfl
        · rcases ih (index + 1) (failed ++ [e]) m with hm | hm
          · exact .inl (by simp only [hm, Option.map_none])
          · exact .inr (by simp only [hm])
        · exact .inr rfl

/-- A combinator of parsers that come to an end more often comes to an end more often. -/
theorem congruence_extends : Congruence @Extends where
  refl p c := .inr rfl
  map f hp c := by
    rw [parse_map, parse_map]
    rcases hp c with hc | hc
    · exact .inl (by rw [hc])
    · exact .inr (by rw [hc])
  tryMap f hp c := by
    rw [parse_tryMap, parse_tryMap]
    rcases hp c with hc | hc
    · exact .inl (by rw [hc])
    · exact .inr (by rw [hc])
  filter keep reason hp c := by
    rw [parse_filter, parse_filter]
    rcases hp c with hc | hc
    · exact .inl (by rw [hc])
    · exact .inr (by rw [hc])
  zip {_ _ _ p' q q'} hp hq c := by
    rw [parse_zip, parse_zip]
    rcases hp c with hc | hc
    · exact .inl (by rw [hc])
    · rw [hc]
      rcases p'.parse c with _ | ⟨_ | a, m, es⟩
      · exact .inl rfl
      · exact .inr rfl
      · rcases hq m with hm | hm
        · exact .inl (by simp only [hm])
        · exact .inr (by simp only [hm])
  flatMap {_ _ _ p' k k'} hp hk c := by
    rw [parse_flatMap, parse_flatMap]
    rcases hp c with hc | hc
    · exact .inl (by rw [hc])
    · rw [hc]
      rcases p'.parse c with _ | ⟨_ | a, m, es⟩
      · exact .inl rfl
      · exact .inr rfl
      · rcases hk a m with hm | hm
        · exact .inl (by simp only [hm])
        · exact .inr (by simp only [hm])
  orElse {_ _ p' q q'} hp hq c := by
    rw [parse_orElse, parse_orElse]
    rcases hp c with hc | hc
    · exact .inl (by rw [hc])
    · rw [hc]
      rcases p'.parse c with _ | ⟨e | a, m, es⟩
      · exact .inl rfl
      · rcases hq c with hm | hm
        · exact .inl (by simp only [hm])
        · exact .inr (by simp only [hm])
      · exact .inr rfl
  choice hp hqs c := by
    rw [parse_choice, parse_choice]
    exact extends_firstOf c (.cons hp hqs) 0 [] c

end Parser

/-- A rule's parser that comes to an end is left so by a greater depth. -/
theorem Rules.parser_extends (rules : Rules) {m n : Nat} (h : m ≤ n) (name : String) :
    (rules.parser m name).Extends (rules.parser n name) := by
  induction m generalizing n name with
  | zero => exact fun c ↦ .inl rfl
  | succ m ih =>
      obtain ⟨n, rfl⟩ : ∃ k, n = k + 1 := ⟨n - 1, by omega⟩
      exact Parser.congruence_extends.interpret (ih (by omega)) (rules name)

namespace Grammar

/-- A reply at one depth is the reply at every greater depth. -/
theorem parse_mono {g : Grammar} {rules : Rules} {m n : Nat} {c : Cursor} {r : Reply Value}
    (hmn : m ≤ n) (h : (g.parser rules m).parse c = some r) :
    (g.parser rules n).parse c = some r := by
  have he : (g.parser rules m).Extends (g.parser rules n) :=
    Parser.congruence_extends.interpret (rules.parser_extends hmn) g
  rcases he c with hc | hc
  · rw [hc] at h
    cases h
  · rw [← hc, h]

/-- From `c`, the grammar succeeds over the rules with the value `v` and stops at `d`. -/
def Succeeds (g : Grammar) (rules : Rules) (c : Cursor) (v : Value) (d : Cursor) : Prop :=
  ∃ depth, (g.parser rules depth).Succeeds c v d

/-- From `c`, the grammar fails over the rules with `e` and leaves the cursor at `d`. -/
def Fails (g : Grammar) (rules : Rules) (c : Cursor) (e : Failure) (d : Cursor) : Prop :=
  ∃ depth, (g.parser rules depth).Fails c e d

variable {g : Grammar} {rules : Rules} {c d : Cursor}

theorem succeeds_mono {m n : Nat} {v : Value} (hmn : m ≤ n)
    (h : (g.parser rules m).Succeeds c v d) : (g.parser rules n).Succeeds c v d := by
  obtain ⟨es, h⟩ := h
  exact ⟨es, parse_mono hmn h⟩

theorem fails_mono {m n : Nat} {e : Failure} (hmn : m ≤ n)
    (h : (g.parser rules m).Fails c e d) : (g.parser rules n).Fails c e d := by
  obtain ⟨es, h⟩ := h
  exact ⟨es, parse_mono hmn h⟩

/-- Two failures come about at one depth. -/
theorem Fails.exists_depth {g' : Grammar} {e e' : Failure} {c' d' : Cursor}
    (h : g.Fails rules c e d) (h' : g'.Fails rules c' e' d') :
    ∃ n, (g.parser rules n).Fails c e d ∧ (g'.parser rules n).Fails c' e' d' := by
  obtain ⟨n, h⟩ := h
  obtain ⟨n', h'⟩ := h'
  exact ⟨max n n', fails_mono (Nat.le_max_left n n') h, fails_mono (Nat.le_max_right n n') h'⟩

end Grammar

end Backtrack
