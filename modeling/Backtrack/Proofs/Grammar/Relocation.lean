import Backtrack.Proofs.Parser.Forward

/-!
# Parsing behind other text

A grammar without scripts sees only what is left.  Put more text in front of the source and
move the cursor behind it: the parser does the same, and every position in its reply moves
by the size of that text (`Grammar.parse_behind`).  Positions do go into what a parser does,
in the number of bytes that a pair takes back, in the rounding of an advance and in the
copies of the cursor that are put back, but only ever relative to each other.
-/

namespace Backtrack

namespace Cursor

/-- The cursor at the same place, with more text in front. -/
def behind (front : Text) (c : Cursor) : Cursor :=
  ⟨front ++ c.source, front.byteSize + c.position⟩

@[simp] theorem source_behind (front : Text) (c : Cursor) :
    (c.behind front).source = front ++ c.source := rfl

@[simp] theorem position_behind (front : Text) (c : Cursor) :
    (c.behind front).position = front.byteSize + c.position := rfl

@[simp] theorem rest_behind (front : Text) (c : Cursor) : (c.behind front).rest = c.rest :=
  Text.dropBytes_append_add front c.source c.position

@[simp] theorem peek_behind (front : Text) (c : Cursor) : (c.behind front).peek = c.peek := by
  rw [peek, peek, rest_behind]

theorem advance_behind {front : Text} {c : Cursor} (h : Text.Addressable (front ++ c.source))
    (n : Nat) : (c.behind front).advance n = (c.advance n).behind front := by
  refine Cursor.ext rfl ?_
  rw [position_advance h, position_behind, position_behind, position_advance h.of_append,
    source_behind, Nat.add_assoc, Text.ceilBoundary_append_add]

end Cursor

/-- The reply with the same outcome and events, and with the cursor behind more text. -/
def Reply.behind {α : Type} (front : Text) (r : Reply α) : Reply α :=
  ⟨r.outcome, r.cursor.behind front, r.events⟩

namespace Parser

variable {α : Type}

/-- The parser goes forward, and does the same behind other text. -/
structure Relocatable (p : Parser α) : Prop extends Forward p where
  relocates {front : Text} {c : Cursor} : c.WellFormed →
    Text.Addressable (front ++ c.source) →
      p.parse (c.behind front) = (p.parse c).map (Reply.behind front)

/-- Behind other text, alternatives that do the same there are given up alike. -/
theorem parse_firstOf_behind {front : Text} {start : Cursor} (hs : start.WellFormed)
    (ha : Text.Addressable (front ++ start.source)) {ps : List (Parser α)}
    (h : ∀ p ∈ ps, p.Relocatable) (index : Nat) (failed : List Failure) (c c' : Cursor) :
    (firstOf (start.behind front) index failed ps).parse c' =
      ((firstOf start index failed ps).parse c).map (Reply.behind front) := by
  induction ps generalizing index failed c c' with
  | nil =>
      rw [parse_firstOf_nil, parse_firstOf_nil, Cursor.rest_behind]
      rfl
  | cons p ps ih =>
      have hp := (h p List.mem_cons_self).relocates hs ha
      rw [parse_firstOf_cons, parse_firstOf_cons, hp]
      rcases p.parse start with _ | ⟨e | a, d, es⟩
      · rfl
      · have hps := ih (fun q hq ↦ h q (List.mem_cons_of_mem p hq)) (index + 1) (failed ++ [e])
          d (d.behind front)
        simp only [Option.map_some, Reply.behind, hps, Option.map_map]
        rfl
      · rfl

theorem compositional_relocatable : Compositional @Relocatable where
  endless := ⟨compositional_forward.endless, fun _ _ ↦ rfl⟩
  always a := ⟨compositional_forward.always a, fun _ _ ↦ rfl⟩
  never := ⟨compositional_forward.never, fun _ _ ↦ rfl⟩
  anyChar := by
    refine ⟨compositional_forward.anyChar, fun {front c} hc ha ↦ ?_⟩
    rw [parse_anyChar, parse_anyChar, Cursor.peek_behind]
    cases c.peek with
    | none => rfl
    | some ch => simp only [Cursor.advance_behind ha, Option.map_some, Reply.behind]
  literal x := by
    refine ⟨compositional_forward.literal x, fun {front c} hc ha ↦ ?_⟩
    rw [parse_literal, parse_literal, Cursor.rest_behind, Cursor.advance_behind ha]
    split <;> rfl
  span accepts := by
    refine ⟨compositional_forward.span accepts, fun {front c} hc ha ↦ ?_⟩
    rw [parse_span, parse_span, Cursor.rest_behind, Cursor.advance_behind ha]
    rfl
  integer := by
    refine ⟨compositional_forward.integer, fun {front c} hc ha ↦ ?_⟩
    rw [parse_integer, parse_integer, Cursor.rest_behind, Cursor.advance_behind ha]
    split <;> rfl
  map f hp := by
    refine ⟨compositional_forward.map f hp.toForward, fun {front c} hc ha ↦ ?_⟩
    rw [parse_map, parse_map, hp.relocates hc ha]
    rcases Parser.parse _ c with _ | ⟨_ | a, d, es⟩ <;> rfl
  tryMap f hp := by
    refine ⟨compositional_forward.tryMap f hp.toForward, fun {front c} hc ha ↦ ?_⟩
    rw [parse_tryMap, parse_tryMap, hp.relocates hc ha]
    rcases Parser.parse _ c with _ | ⟨_ | a, d, es⟩
    · rfl
    · rfl
    · cases hf : f a <;> simp [hf, Reply.behind]
  filter keep reason hp := by
    refine ⟨compositional_forward.filter keep reason hp.toForward, fun {front c} hc ha ↦ ?_⟩
    rw [parse_filter, parse_filter, hp.relocates hc ha]
    rcases Parser.parse _ c with _ | ⟨_ | a, d, es⟩
    · rfl
    · rfl
    · cases hk : keep a <;> simp [hk, Reply.behind]
  zip {_ _ p q} hp hq := by
    refine ⟨compositional_forward.zip hp.toForward hq.toForward, fun {front c} hc ha ↦ ?_⟩
    rw [parse_zip, parse_zip, hp.relocates hc ha]
    rcases h : p.parse c with _ | ⟨_ | a, d, es⟩
    · rfl
    · rfl
    · have hd := hp.succeeds hc ⟨es, h⟩
      have hqd := hq.relocates hd.wellFormed (by rwa [hd.source])
      simp only [Option.map_some, Reply.behind, hqd]
      -- The bytes taken back are a difference of two positions.
      rcases q.parse d with _ | ⟨_ | b, d', fs⟩ <;> simp [Reply.behind, Nat.add_sub_add_left]
  flatMap {_ _ p k} hp hk := by
    refine ⟨compositional_forward.flatMap hp.toForward fun a ↦ (hk a).toForward,
      fun {front c} hc ha ↦ ?_⟩
    rw [parse_flatMap, parse_flatMap, hp.relocates hc ha]
    rcases h : p.parse c with _ | ⟨_ | a, d, es⟩
    · rfl
    · rfl
    · have hd := hp.succeeds hc ⟨es, h⟩
      have hkd := (hk a).relocates hd.wellFormed (by rwa [hd.source])
      simp only [Option.map_some, Reply.behind, hkd]
      rcases (k a).parse d with _ | ⟨_ | b, d', fs⟩ <;> rfl
  orElse {_ p q} hp hq := by
    refine ⟨compositional_forward.orElse hp.toForward hq.toForward, fun {front c} hc ha ↦ ?_⟩
    rw [parse_orElse, parse_orElse, hp.relocates hc ha, hq.relocates hc ha,
      Cursor.rest_behind]
    rcases p.parse c with _ | ⟨e | a, d, es⟩
    · rfl
    · rcases q.parse c with _ | ⟨e' | b, d', fs⟩ <;> rfl
    · rfl
  choice {_ p qs} hp hqs := by
    refine ⟨compositional_forward.choice hp.toForward fun q hq ↦ (hqs q hq).toForward,
      fun {front c} hc ha ↦ ?_⟩
    rw [parse_choice, parse_choice]
    refine parse_firstOf_behind hc ha (fun q hq ↦ ?_) 0 [] c (c.behind front)
    rcases List.mem_cons.mp hq with rfl | hq
    · exact hp
    · exact hqs q hq

end Parser

namespace Grammar

/-- A grammar without scripts parses a text as it does behind any other text: it comes to
an end in both places or in none, with the same value or failure and the same events, and
the two cursors differ by the text in front. -/
theorem parse_behind {g : Grammar} {rules : Rules} {front t : Text} (hr : rules.ScriptFree)
    (hg : g.ScriptFree) (h : Text.Addressable (front ++ t)) (depth : Nat) :
    (g.parser rules depth).parse ⟨front ++ t, front.byteSize⟩ =
      ((g.parser rules depth).parse (.start t)).map (Reply.behind front) :=
  (Parser.compositional_relocatable.parser hr depth hg).relocates
    (Cursor.wellFormed_start h.of_append) h

/-- A value is refused after a choice inside it had to give an alternative up.  The cursor
is left after the value, at the third byte of the text and the sixth behind other text. -/
theorem parse_behind_refused :
    let rules : Rules := fun _ ↦ .literal ['é']
    let g : Grammar :=
      .tryMap (.zip (.literal ['(']) (.orElse .integer (.rule "accent"))) fun _ ↦ .error ['n', 'o']
    let front : Text := ['ñ', '(']
    let t : Text := ['(', 'é', 'x']
    let e : Failure := .rejected ['n', 'o'] ['x']
    let events : List Event := [.firstFailed (.notNumber [] ['é', 'x'])]
    rules.ScriptFree ∧ g.ScriptFree ∧ Text.Addressable (front ++ t) ∧
      (g.parser rules 1).parse (.start t) = some ⟨.error e, ⟨t, 3⟩, events⟩ ∧
      (g.parser rules 1).parse ⟨front ++ t, front.byteSize⟩ =
        some ⟨.error e, ⟨front ++ t, 6⟩, events⟩ := by
  intro rules g front t e events
  have hr : rules.ScriptFree := fun _ ↦ .literal _
  have hg : g.ScriptFree := .tryMap _ (.zip (.literal _) (.orElse .integer (.rule _)))
  have h : Text.Addressable (front ++ t) := by decide
  have ht : (g.parser rules 1).parse (.start t) = some ⟨.error e, ⟨t, 3⟩, events⟩ := rfl
  refine ⟨hr, hg, h, ht, ?_⟩
  rw [parse_behind hr hg h 1, ht]
  rfl

end Grammar

end Backtrack
