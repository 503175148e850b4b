import Backtrack.Proofs.Grammar.Depth
import Backtrack.Proofs.Parser.Forward

/-!
# Grammars that keep every character

A verbatim grammar puts all that it reads into its value: characters, runs and literals as
themselves, sequences as tuples, also where the second stage is chosen by the value of the
first, and nothing for what it does not read.  Then the value, written out from left to
right, is the text that was consumed (`Succeeds.rest_eq_spelled`), whatever the alternatives that
failed before had read.
-/

namespace Backtrack

/-! ## Spelling -/

namespace Value

/-- The text of a value that is a character or a text. -/
def letters : Value → Text
  | char c => [c]
  | str t => t
  | _ => []

/-- The characters and texts in a value, from left to right. -/
def spelled (v : Value) : Text := v.leaves.flatMap letters

@[simp] theorem spelled_char (c : Char) : (char c).spelled = [c] := rfl

@[simp] theorem spelled_str (t : Text) : (str t).spelled = t := List.append_nil t

theorem leavesItems_eq_flatMap (vs : List Value) : leavesItems vs = vs.flatMap leaves := by
  induction vs with
  | nil => rfl
  | cons v vs ih => rw [leavesItems, ih, List.flatMap_cons]

@[simp] theorem spelled_tuple (vs : List Value) : (tuple vs).spelled = vs.flatMap spelled := by
  rw [spelled, leaves, leavesItems_eq_flatMap, List.flatMap_assoc]
  rfl

end Value

/-- A parser whose value spells what it consumed. -/
def Parser.Spells (p : Parser Value) : Prop :=
  ∀ {c d : Cursor} {v : Value}, c.WellFormed → p.Succeeds c v d → c.Consumes v.spelled d

namespace Grammar

/-- A grammar with everything that it reads in its value. -/
inductive Verbatim : Grammar → Prop
  | anyChar : Verbatim .anyChar
  | span (accepts : Char → Bool) : Verbatim (.span accepts)
  | literal (x : Text) : Verbatim (.map (.literal x) fun _ ↦ .str x)
  | nothing : Verbatim (.always (.str []))
  | never : Verbatim .never
  | zip {a b : Grammar} : Verbatim a → Verbatim b → Verbatim (.zip a b)
  | zip3 {a b b' : Grammar} : Verbatim a → Verbatim b → Verbatim b' → Verbatim (.zip3 a b b')
  | orElse {a b : Grammar} : Verbatim a → Verbatim b → Verbatim (.orElse a b)
  | choice {a : Grammar} {bs : List Grammar} :
      Verbatim a → (∀ b ∈ bs, Verbatim b) → Verbatim (.choice a bs)
  | filter {a : Grammar} (keep : Value → Bool) (reason : Text) :
      Verbatim a → Verbatim (.filter a keep reason)
  | flatMap {a : Grammar} {k : Value → Grammar} : Verbatim a → (∀ v, Verbatim (k v)) →
      Verbatim (.flatMap a fun v ↦ .map (k v) fun w ↦ .tuple [v, w])
  | rule (name : String) : Verbatim (.rule name)

variable {rules : Rules}

/-- Spelling is passed on from the rules to the verbatim grammars over them. -/
theorem Verbatim.spells_interpret {depth : Nat}
    (hrules : ∀ name, (rules.parser depth name).Spells) {g : Grammar} (hg : g.Verbatim) :
    (g.parser rules depth).Spells := by
  -- What failed before decides nothing: every alternative starts where the choice does.
  intro c d v hc h
  induction hg generalizing c d v with
  | anyChar =>
      obtain ⟨x, hx, rfl⟩ := Parser.succeeds_map.mp h
      exact Parser.consumes_anyChar hc hx
  | span accepts =>
      obtain ⟨t, ht, rfl⟩ := Parser.succeeds_map.mp h
      rw [Value.spelled_str]
      exact Parser.consumes_span hc ht
  | literal x =>
      obtain ⟨_, hu, rfl⟩ := Parser.succeeds_map.mp h
      obtain ⟨_, hx, _⟩ := Parser.succeeds_map.mp hu
      rw [Value.spelled_str]
      exact Parser.consumes_literal hc hx
  | nothing =>
      obtain ⟨rfl, rfl⟩ := Parser.succeeds_always.mp h
      exact Cursor.consumes_nil d
  | never => exact absurd h Parser.succeeds_never
  | zip _ _ iha ihb =>
      obtain ⟨⟨x, y⟩, hxy, rfl⟩ := Parser.succeeds_map.mp h
      obtain ⟨m, hx, hy⟩ := Parser.succeeds_zip.mp hxy
      have hcm := iha hc hx
      have hmd := ihb (hcm.wellFormed hc) hy
      simpa using hcm.append hmd
  | zip3 _ _ _ iha ihb ihb' =>
      obtain ⟨⟨x, y, z⟩, hxyz, rfl⟩ := Parser.succeeds_map.mp h
      obtain ⟨m, hx, hyz⟩ := Parser.succeeds_zip.mp hxyz
      obtain ⟨m', hy, hz⟩ := Parser.succeeds_zip.mp hyz
      have hcm := iha hc hx
      have hm := hcm.wellFormed hc
      have hmm' := ihb hm hy
      have hm'd := ihb' (hmm'.wellFormed hm) hz
      simpa using hcm.append (hmm'.append hm'd)
  | orElse _ _ iha ihb =>
      rcases Parser.succeeds_orElse.mp h with h | ⟨_, h⟩
      · exact iha hc h
      · exact ihb hc h
  | @choice a bs _ _ iha ihbs =>
      rw [parser, interpret, interpretAll_eq_map] at h
      obtain ⟨q, hq, h⟩ := (Parser.succeeds_choice.mp h).exists_mem
      rcases List.mem_cons.mp hq with rfl | hq
      · exact iha hc h
      · obtain ⟨b, hb, rfl⟩ := List.mem_map.mp hq
        exact ihbs b hb hc h
  | filter keep reason _ iha => exact iha hc (Parser.succeeds_filter.mp h).1
  | flatMap _ _ iha ihk =>
      obtain ⟨x, m, hx, h⟩ := Parser.succeeds_flatMap.mp h
      obtain ⟨y, hy, rfl⟩ := Parser.succeeds_map.mp h
      have hcm := iha hc hx
      have hmd := ihk x (hcm.wellFormed hc) hy
      simpa using hcm.append hmd
  | rule name => exact hrules name hc h

theorem Verbatim.spells_rule (hr : ∀ name, (rules name).Verbatim) (depth : Nat)
    (name : String) : (rules.parser depth name).Spells := by
  induction depth generalizing name with
  | zero => exact fun _ h ↦ absurd h Parser.succeeds_endless
  | succ depth ih => exact (hr name).spells_interpret ih

/-- No text is lost, skipped or taken twice: the value of a verbatim grammar, spelled from
left to right, is what was consumed, followed by what is left, and the position has grown by
its size. -/
theorem Succeeds.rest_eq_spelled {g : Grammar} {c d : Cursor} {v : Value}
    (hr : ∀ name, (rules name).Verbatim) (hg : g.Verbatim) (hc : c.WellFormed)
    (h : g.Succeeds rules c v d) :
    c.rest = v.spelled ++ d.rest ∧ d.position = c.position + v.spelled.byteSize := by
  obtain ⟨depth, h⟩ := h
  have hconsumes := hg.spells_interpret (Verbatim.spells_rule hr depth) hc h
  exact ⟨hconsumes.rest, hconsumes.position⟩

/-- A character and then a quoted word: of the alternatives, the first one reads the quote
and fails after it, and the second one comes back to the same rule for the word. -/
theorem quoted_word_spelled :
    let left : Grammar := .map (.literal ['«']) fun _ ↦ .str ['«']
    let right : Grammar := .map (.literal ['»']) fun _ ↦ .str ['»']
    let word : Grammar := .filter (.span fun ch ↦ ch = 'é') (fun v ↦ v ≠ .str []) ['n', 'o']
    let rules : Rules := fun _ ↦
      .choice (.zip left right) [.zip3 left (.rule "word") right, word]
    let g : Grammar := .flatMap .anyChar fun v ↦ .map (.rule "word") fun w ↦ .tuple [v, w]
    let text : Text := ['-', 'x', '«', 'é', 'é', '»', '.']
    let c : Cursor := ⟨text, 1⟩
    let d : Cursor := ⟨text, 10⟩
    let v : Value := .tuple [.char 'x', .tuple [.str ['«'], .str ['é', 'é'], .str ['»']]]
    (∀ name, (rules name).Verbatim) ∧ g.Verbatim ∧ c.WellFormed ∧ g.Succeeds rules c v d ∧
      v.spelled = ['x', '«', 'é', 'é', '»'] ∧ c.rest = v.spelled ++ d.rest ∧
      d.position = c.position + v.spelled.byteSize := by
  intro left right word rules g text c d v
  have hr : ∀ name, (rules name).Verbatim := by
    refine fun _ ↦ .choice (.zip (.literal _) (.literal _)) fun b hb ↦ ?_
    rcases List.mem_pair.mp hb with rfl | rfl
    · exact .zip3 (.literal _) (.rule _) (.literal _)
    · exact .filter _ _ (.span _)
  have hg : g.Verbatim := .flatMap .anyChar fun _ ↦ .rule _
  have hc : c.WellFormed := ⟨⟨['-'], text.tail, rfl, rfl⟩, by decide⟩
  have h : g.Succeeds rules c v d := ⟨2, _, rfl⟩
  exact ⟨hr, hg, hc, h, rfl, h.rest_eq_spelled hr hg hc⟩

end Grammar

end Backtrack
