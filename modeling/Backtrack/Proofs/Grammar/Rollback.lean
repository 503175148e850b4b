import Backtrack.Proofs.Grammar.Depth
import Backtrack.Proofs.Grammar.ScriptFree

/-!
# The cursor after a failure

A grammar without scripts that fails leaves the cursor where it started, with one
exception.  A conversion that refuses a value fails where the value ended, and nothing
takes that back as long as it happens at the head of the grammar: a choice and the later
parts of a sequence put the cursor back, while the first part of a sequence and the inner
grammar of a transformation or test do not.
-/

namespace Backtrack.Grammar

variable {rules : Rules}

/-- `h` stands at the head of a grammar: it is the grammar itself, or stands at the head
of the part that the grammar runs first and whose failure it passes on as it is. -/
inductive AtHead (rules : Rules) (h : Grammar) : Grammar → Prop
  | self : AtHead rules h h
  | map {a : Grammar} (f : Value → Value) : AtHead rules h a → AtHead rules h (.map a f)
  | tryMap {a : Grammar} (f : Value → Except Text Value) :
      AtHead rules h a → AtHead rules h (.tryMap a f)
  | filter {a : Grammar} (keep : Value → Bool) (reason : Text) :
      AtHead rules h a → AtHead rules h (.filter a keep reason)
  | zip {a : Grammar} (b : Grammar) : AtHead rules h a → AtHead rules h (.zip a b)
  | zip3 {a : Grammar} (b c : Grammar) : AtHead rules h a → AtHead rules h (.zip3 a b c)
  | flatMap {a : Grammar} (k : Value → Grammar) :
      AtHead rules h a → AtHead rules h (.flatMap a k)
  | rule {name : String} : AtHead rules h (rules name) → AtHead rules h (.rule name)

/-- `e` is the refusal of a conversion at the head of `g`, of a value that was read from
`c` up to `d`. -/
def RefusesAtHead (rules : Rules) (g : Grammar) (c : Cursor) (e : Failure) (d : Cursor) : Prop :=
  ∃ a f v reason, AtHead rules (.tryMap a f) g ∧ a.Succeeds rules c v d ∧
    f v = .error reason ∧ e = .rejected reason d.rest

theorem RefusesAtHead.lift {a g : Grammar} {c d : Cursor} {e : Failure}
    (h : RefusesAtHead rules a c e d) (hg : ∀ {h}, AtHead rules h a → AtHead rules h g) :
    RefusesAtHead rules g c e d := by
  obtain ⟨b, f, v, reason, hb, h⟩ := h
  exact ⟨b, f, v, reason, hg hb, h⟩

/-- A parser that, when it fails, has left the cursor where it was or has refused a value
at the head of `g`. -/
def RestoresOrRefuses (rules : Rules) (g : Grammar) (p : Parser Value) : Prop :=
  ∀ {c d : Cursor} {e : Failure}, p.Fails c e d → d = c ∨ RefusesAtHead rules g c e d

/-- Rolling back is passed on from the rules to the grammars over them. -/
theorem restoresOrRefuses_interpret {depth : Nat}
    (hrules : ∀ name, RestoresOrRefuses rules (rules name) (rules.parser depth name))
    {g : Grammar} (hg : g.ScriptFree) : RestoresOrRefuses rules g (g.parser rules depth) := by
  -- Only the heads matter, and they run from the cursor of the whole grammar.
  intro c d e h
  induction hg with
  | anyChar => exact .inl (Parser.fails_anyChar.mp (Parser.fails_map.mp h)).2.2
  | integer => exact .inl (Parser.fails_integer.mp (Parser.fails_map.mp h)).2.2
  | boolean => exact .inl (Parser.fails_orElse.mp (Parser.fails_map.mp h)).2
  | literal x => exact .inl (Parser.fails_literal.mp (Parser.fails_map.mp h)).2.2
  | span accepts => exact absurd (Parser.fails_map.mp h) Parser.fails_span
  | always v => exact absurd h Parser.fails_always
  | never => exact .inl (Parser.fails_never.mp h).2
  | @zip a b _ _ ha _ =>
      rcases Parser.fails_zip.mp (Parser.fails_map.mp h) with h | ⟨_, hd⟩
      · exact (ha h).imp_right fun hr ↦ hr.lift (.zip b)
      · exact .inl hd
  | @zip3 a b b' _ _ _ ha _ _ =>
      rcases Parser.fails_zip.mp (Parser.fails_map.mp h) with h | ⟨_, hd⟩
      · exact (ha h).imp_right fun hr ↦ hr.lift (.zip3 b b')
      · exact .inl hd
  | orElse => exact .inl (Parser.fails_orElse.mp h).2
  | choice => exact .inl (Parser.fails_choice.mp h).2
  | map f _ ha => exact (ha (Parser.fails_map.mp h)).imp_right fun hr ↦ hr.lift (.map f)
  | @tryMap a f _ ha =>
      rcases Parser.fails_tryMap.mp h with h | ⟨v, reason, hv, hf, rfl⟩
      · exact (ha h).imp_right fun hr ↦ hr.lift (.tryMap f)
      · exact .inr ⟨a, f, v, reason, .self, ⟨depth, hv⟩, hf, rfl⟩
  | filter keep reason _ ha =>
      rcases Parser.fails_filter.mp h with h | ⟨_, _, hd⟩
      · exact (ha h).imp_right fun hr ↦ hr.lift (.filter keep reason)
      · exact .inl hd
  | @flatMap a k _ _ ha _ =>
      rcases Parser.fails_flatMap.mp h with h | ⟨_, hd⟩
      · exact (ha h).imp_right fun hr ↦ hr.lift (.flatMap k)
      · exact .inl hd
  | rule name => exact (hrules name h).imp_right fun hr ↦ hr.lift .rule

theorem restoresOrRefuses_rule (hr : rules.ScriptFree) (depth : Nat) (name : String) :
    RestoresOrRefuses rules (rules name) (rules.parser depth name) := by
  induction depth generalizing name with
  | zero => exact fun h ↦ absurd h Parser.fails_endless
  | succ depth ih => exact restoresOrRefuses_interpret ih (hr name)

/-- A grammar without scripts that fails has left the cursor where it was, unless a
conversion at its head refused a value: then the failure is that refusal and the cursor
stands after the value. -/
theorem Fails.restores_or_refuses {g : Grammar} {c d : Cursor} {e : Failure}
    (hr : rules.ScriptFree) (hg : g.ScriptFree) (h : g.Fails rules c e d) :
    (d = c ∨ RefusesAtHead rules g c e d) ∧
      ((∀ a f, ¬ AtHead rules (.tryMap a f) g) → d = c) := by
  obtain ⟨depth, h⟩ := h
  have hd := restoresOrRefuses_interpret (restoresOrRefuses_rule hr depth) hg h
  refine ⟨hd, fun hno ↦ ?_⟩
  rcases hd with hd | ⟨a, f, _, _, ha, _⟩
  · exact hd
  · exact absurd ha (hno a f)

/-- A rule reads a character of two bytes and refuses it.  As the first part of a pair it
leaves the cursor after the character; as the second part it is not at the head, and the
cursor is back. -/
theorem refusal_first_and_second :
    let rules : Rules := fun _ ↦ .tryMap .anyChar fun _ ↦ .error ['n', 'o']
    let first : Grammar := .zip (.rule "item") .integer
    let second : Grammar := .zip .integer (.rule "item")
    let c : Cursor := ⟨['é', '1'], 0⟩
    let d : Cursor := ⟨['é', '1'], 2⟩
    let c' : Cursor := ⟨['1', 'é'], 0⟩
    rules.ScriptFree ∧ first.ScriptFree ∧ second.ScriptFree ∧
      first.Fails rules c (.rejected ['n', 'o'] ['1']) d ∧
      (d = c ∨ RefusesAtHead rules first c (.rejected ['n', 'o'] ['1']) d) ∧
      (∀ a f, ¬ AtHead rules (.tryMap a f) second) ∧
      second.Fails rules c' (.rejected ['n', 'o'] []) c' ∧
      ∀ e d', second.Fails rules c' e d' → d' = c' := by
  intro rules first second c d c'
  have hr : rules.ScriptFree := fun _ ↦ .tryMap _ .anyChar
  have h₁ : first.ScriptFree := .zip (.rule _) .integer
  have h₂ : second.ScriptFree := .zip .integer (.rule _)
  have hno : ∀ a f, ¬ AtHead rules (.tryMap a f) second := by
    intro a f h
    change AtHead rules (.tryMap a f) (.zip .integer (.rule "item")) at h
    cases h with
    | zip _ h => cases h
  have hf : first.Fails rules c (.rejected ['n', 'o'] ['1']) d := ⟨1, [], rfl⟩
  have hs : second.Fails rules c' (.rejected ['n', 'o'] []) c' := ⟨1, [.rolledBack 3], rfl⟩
  exact ⟨hr, h₁, h₂, hf, (hf.restores_or_refuses hr h₁).1, hno, hs,
    fun e d' h ↦ (h.restores_or_refuses hr h₂).2 hno⟩

end Backtrack.Grammar
