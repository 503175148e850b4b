import Backtrack.Proofs.Grammar.Congruence

/-!
# Grammars without scripts

A script may do with the cursor what it likes, so most of what can be said about every
grammar is said of those without scripts.  Such a statement is a property of parsers:
when the lexical parsers have it and the combinators keep it, it is `Compositional`,
and then the parser of every grammar without scripts has it, to any depth of recursion.
Where scripts have it too, so has the parser of every grammar.
-/

namespace Backtrack

/-- A grammar without scripts, in what it chooses by a value too. -/
inductive Grammar.ScriptFree : Grammar → Prop
  | anyChar : ScriptFree .anyChar
  | integer : ScriptFree .integer
  | boolean : ScriptFree .boolean
  | literal (expected : Text) : ScriptFree (.literal expected)
  | span (accepts : Char → Bool) : ScriptFree (.span accepts)
  | always (v : Value) : ScriptFree (.always v)
  | never : ScriptFree .never
  | zip {a b : Grammar} : ScriptFree a → ScriptFree b → ScriptFree (.zip a b)
  | zip3 {a b c : Grammar} :
      ScriptFree a → ScriptFree b → ScriptFree c → ScriptFree (.zip3 a b c)
  | orElse {a b : Grammar} : ScriptFree a → ScriptFree b → ScriptFree (.orElse a b)
  | choice {a : Grammar} {bs : List Grammar} :
      ScriptFree a → (∀ b ∈ bs, ScriptFree b) → ScriptFree (.choice a bs)
  | map {a : Grammar} (f : Value → Value) : ScriptFree a → ScriptFree (.map a f)
  | tryMap {a : Grammar} (f : Value → Except Text Value) :
      ScriptFree a → ScriptFree (.tryMap a f)
  | filter {a : Grammar} (keep : Value → Bool) (reason : Text) :
      ScriptFree a → ScriptFree (.filter a keep reason)
  | flatMap {a : Grammar} {k : Value → Grammar} :
      ScriptFree a → (∀ v, ScriptFree (k v)) → ScriptFree (.flatMap a k)
  | rule (name : String) : ScriptFree (.rule name)

/-- Rules whose grammars are all without scripts. -/
def Rules.ScriptFree (rules : Rules) : Prop := ∀ name, (rules name).ScriptFree

/-- A property of parsers that the lexical parsers have and the combinators keep. -/
structure Parser.Compositional (P : ∀ ⦃α : Type⦄, Parser α → Prop) : Prop where
  endless {α : Type} : P (.endless : Parser α)
  always {α : Type} (a : α) : P (.always a)
  never {α : Type} : P (.never : Parser α)
  anyChar : P .anyChar
  literal (expected : Text) : P (.literal expected)
  span (accepts : Char → Bool) : P (.span accepts)
  integer : P .integer
  map {α β : Type} {p : Parser α} (f : α → β) : P p → P (p.map f)
  tryMap {α β : Type} {p : Parser α} (f : α → Except Text β) : P p → P (p.tryMap f)
  filter {α : Type} {p : Parser α} (keep : α → Bool) (reason : Text) :
    P p → P (p.filter keep reason)
  zip {α β : Type} {p : Parser α} {q : Parser β} : P p → P q → P (p.zip q)
  flatMap {α β : Type} {p : Parser α} {k : α → Parser β} :
    P p → (∀ a, P (k a)) → P (p.flatMap k)
  orElse {α : Type} {p q : Parser α} : P p → P q → P (p.orElse q)
  choice {α : Type} {p : Parser α} {qs : List (Parser α)} :
    P p → (∀ q ∈ qs, P q) → P (.choice p qs)

namespace Parser.Compositional

variable {P : ∀ ⦃α : Type⦄, Parser α → Prop} (h : Parser.Compositional P)

include h

theorem boolean : P Parser.boolean :=
  h.orElse (h.map _ (h.orElse (h.literal _) (h.literal _)))
    (h.map _ (h.orElse (h.literal _) (h.literal _)))

/-- What is compositional may be said in other words. -/
theorem congr {Q : ∀ ⦃α : Type⦄, Parser α → Prop}
    (hPQ : ∀ ⦃α : Type⦄ (p : Parser α), P p ↔ Q p) : Parser.Compositional Q := by
  obtain rfl : P = Q := by
    funext α p
    exact propext (hPQ p)
  exact h

/-- A grammar has a compositional property if the rules have it, unless there are scripts in
it that do not. -/
theorem interpret {rules : String → Parser Value} (hrules : ∀ name, P (rules name))
    {g : Grammar} (hg : g.ScriptFree ∨ ∀ s : Script Value, P s.toParser) :
    P (g.interpret rules) := by
  induction g with
  | anyChar => exact h.map _ h.anyChar
  | integer => exact h.map _ h.integer
  | boolean => exact h.map _ h.boolean
  | literal x => exact h.map _ (h.literal x)
  | span accepts => exact h.map _ (h.span accepts)
  | always v => exact h.always v
  | never => exact h.never
  | script s =>
      rcases hg with hg | hscript
      · cases hg
      · exact hscript s
  | zip a b iha ihb =>
      have ha := iha (hg.imp_left fun hf ↦ by cases hf; assumption)
      have hb := ihb (hg.imp_left fun hf ↦ by cases hf; assumption)
      exact h.map _ (h.zip ha hb)
  | zip3 a b c iha ihb ihc =>
      have ha := iha (hg.imp_left fun hf ↦ by cases hf; assumption)
      have hb := ihb (hg.imp_left fun hf ↦ by cases hf; assumption)
      have hc := ihc (hg.imp_left fun hf ↦ by cases hf; assumption)
      exact h.map _ (h.zip ha (h.zip hb hc))
  | orElse a b iha ihb =>
      have ha := iha (hg.imp_left fun hf ↦ by cases hf; assumption)
      have hb := ihb (hg.imp_left fun hf ↦ by cases hf; assumption)
      exact h.orElse ha hb
  | choice a bs iha ihbs =>
      rw [Grammar.interpret, Grammar.interpretAll_eq_map]
      refine h.choice (iha (hg.imp_left fun hf ↦ by cases hf; assumption)) ?_
      intro q hq
      obtain ⟨b, hb, rfl⟩ := List.mem_map.mp hq
      refine ihbs b hb (hg.imp_left fun hf ↦ ?_)
      cases hf with
      | choice _ hbs => exact hbs b hb
  | map a f iha => exact h.map f (iha (hg.imp_left fun hf ↦ by cases hf; assumption))
  | tryMap a f iha => exact h.tryMap f (iha (hg.imp_left fun hf ↦ by cases hf; assumption))
  | filter a keep reason iha =>
      exact h.filter keep reason (iha (hg.imp_left fun hf ↦ by cases hf; assumption))
  | flatMap a k iha ihk =>
      refine h.flatMap (iha (hg.imp_left fun hf ↦ by cases hf; assumption)) fun v ↦ ?_
      refine ihk v (hg.imp_left fun hf ↦ ?_)
      cases hf with
      | flatMap _ hk => exact hk v
  | rule name => exact hrules name

/-- To any depth, a grammar has a compositional property unless there are scripts, in it or
in the rules, that do not have it. -/
theorem parser_of {rules : Rules} {g : Grammar}
    (hg : (rules.ScriptFree ∧ g.ScriptFree) ∨ ∀ s : Script Value, P s.toParser) (depth : Nat) :
    P (g.parser rules depth) := by
  refine h.interpret ?_ (hg.imp_left And.right)
  induction depth with
  | zero => exact fun name ↦ h.endless
  | succ depth ih => exact fun name ↦ h.interpret ih (hg.imp_left fun hfree ↦ hfree.1 name)

/-- Grammars without scripts have every compositional property, to any depth. -/
theorem parser {rules : Rules} (hr : rules.ScriptFree) (depth : Nat) {g : Grammar}
    (hg : g.ScriptFree) : P (g.parser rules depth) :=
  h.parser_of (.inl ⟨hr, hg⟩) depth

end Parser.Compositional

end Backtrack
