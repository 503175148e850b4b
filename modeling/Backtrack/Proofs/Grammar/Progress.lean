import Backtrack.Proofs.Grammar.Consumption

/-!
# Grammars that consume something

From the form of a grammar one can often tell that it never succeeds without consuming
something.  Such a grammar is consuming, and a success leaves less than there was
(`Consuming.shortens`).  A sequence is consuming by any of its parts, since the others give
nothing back; a choice needs all of its alternatives, since any of them may be the one that
succeeds.
-/

namespace Backtrack

namespace Cursor

variable {c d : Cursor}

theorem Reaches.byteSize_rest_le (h : c.Reaches d) : d.rest.byteSize ≤ c.rest.byteSize :=
  Text.byteSize_le_of_suffix h.rest_suffix

theorem Consumes.byteSize_rest_lt {t : Text} (h : c.Consumes t d) (ht : t ≠ []) :
    d.rest.byteSize < c.rest.byteSize := by
  have hpos : t.byteSize ≠ 0 := fun h0 ↦ ht (Text.byteSize_eq_zero.mp h0)
  rw [h.rest, Text.byteSize_append]
  omega

end Cursor

namespace Parser

variable {α β : Type} {p : Parser α} {q : Parser β}

/-- The parser goes forward, and leaves less than there was whenever it succeeds. -/
structure Shortens (p : Parser α) : Prop extends Forward p where
  byteSize_rest_lt {c d : Cursor} {a : α} :
    c.WellFormed → p.Succeeds c a d → d.rest.byteSize < c.rest.byteSize

theorem shortens_anyChar : anyChar.Shortens :=
  ⟨compositional_forward.anyChar, fun hc h ↦
    (consumes_anyChar hc h).byteSize_rest_lt (List.cons_ne_nil _ _)⟩

theorem shortens_literal {x : Text} (hx : x ≠ []) : (literal x).Shortens :=
  ⟨compositional_forward.literal x, fun hc h ↦ (consumes_literal hc h).byteSize_rest_lt hx⟩

theorem shortens_integer : integer.Shortens := by
  refine ⟨compositional_forward.integer, fun hc h ↦ ?_⟩
  refine (consumes_integer hc h).byteSize_rest_lt fun hnil ↦ ?_
  -- Without digits there is no number.
  have hread := (succeeds_integer.mp h).1
  rw [hnil] at hread
  cases hread

theorem Shortens.map (hp : p.Shortens) (f : α → β) : (p.map f).Shortens := by
  refine ⟨compositional_forward.map f hp.toForward, fun hc h ↦ ?_⟩
  obtain ⟨a, ha, _⟩ := succeeds_map.mp h
  exact hp.byteSize_rest_lt hc ha

theorem Shortens.tryMap (hp : p.Shortens) (f : α → Except Text β) : (p.tryMap f).Shortens := by
  refine ⟨compositional_forward.tryMap f hp.toForward, fun hc h ↦ ?_⟩
  obtain ⟨a, ha, _⟩ := succeeds_tryMap.mp h
  exact hp.byteSize_rest_lt hc ha

theorem Shortens.filter (hp : p.Shortens) (keep : α → Bool) (reason : Text) :
    (p.filter keep reason).Shortens :=
  ⟨compositional_forward.filter keep reason hp.toForward, fun hc h ↦
    hp.byteSize_rest_lt hc (succeeds_filter.mp h).1⟩

theorem Shortens.zip_left (hp : p.Shortens) (hq : q.Forward) : (p.zip q).Shortens := by
  refine ⟨compositional_forward.zip hp.toForward hq, fun hc h ↦ ?_⟩
  obtain ⟨m, ha, hb⟩ := succeeds_zip.mp h
  have hm : m.WellFormed := (hp.succeeds hc ha).wellFormed
  exact Nat.lt_of_le_of_lt (hq.succeeds hm hb).byteSize_rest_le (hp.byteSize_rest_lt hc ha)

theorem Shortens.zip_right (hp : p.Forward) (hq : q.Shortens) : (p.zip q).Shortens := by
  refine ⟨compositional_forward.zip hp hq.toForward, fun hc h ↦ ?_⟩
  obtain ⟨m, ha, hb⟩ := succeeds_zip.mp h
  have hm := hp.succeeds hc ha
  exact Nat.lt_of_lt_of_le (hq.byteSize_rest_lt hm.wellFormed hb) hm.byteSize_rest_le

theorem Shortens.flatMap {k : α → Parser β} (hp : p.Shortens) (hk : ∀ a, (k a).Forward) :
    (p.flatMap k).Shortens := by
  refine ⟨compositional_forward.flatMap hp.toForward hk, fun hc h ↦ ?_⟩
  obtain ⟨a, m, ha, hb⟩ := succeeds_flatMap.mp h
  have hm : m.WellFormed := (hp.succeeds hc ha).wellFormed
  exact Nat.lt_of_le_of_lt ((hk a).succeeds hm hb).byteSize_rest_le (hp.byteSize_rest_lt hc ha)

theorem Shortens.orElse {q : Parser α} (hp : p.Shortens) (hq : q.Shortens) :
    (p.orElse q).Shortens := by
  refine ⟨compositional_forward.orElse hp.toForward hq.toForward, fun hc h ↦ ?_⟩
  rcases succeeds_orElse.mp h with h | ⟨_, h⟩
  · exact hp.byteSize_rest_lt hc h
  · exact hq.byteSize_rest_lt hc h

theorem Shortens.choice {qs : List (Parser α)} (hp : p.Shortens)
    (hqs : ∀ q ∈ qs, q.Shortens) : (Parser.choice p qs).Shortens := by
  refine ⟨compositional_forward.choice hp.toForward fun q hq ↦ (hqs q hq).toForward,
    fun hc h ↦ ?_⟩
  obtain ⟨q, hq, ha⟩ := (succeeds_choice.mp h).exists_mem
  rcases List.mem_cons.mp hq with rfl | hq
  · exact hp.byteSize_rest_lt hc ha
  · exact (hqs q hq).byteSize_rest_lt hc ha

theorem shortens_boolean : boolean.Shortens := by
  have hor : ∀ {x y : Text}, x ≠ [] → y ≠ [] → ((literal x).orElse (literal y)).Shortens :=
    fun hx hy ↦ (shortens_literal hx).orElse (shortens_literal hy)
  have htrue := (hor (x := "true".toList) (y := "True".toList) (by decide) (by decide)).map
    fun _ ↦ true
  have hfalse := (hor (x := "false".toList) (y := "False".toList) (by decide) (by decide)).map
    fun _ ↦ false
  exact htrue.orElse hfalse

end Parser

namespace Grammar

/-- A grammar whose form tells that it succeeds only by consuming something. -/
inductive Consuming : Grammar → Prop
  | anyChar : Consuming .anyChar
  | integer : Consuming .integer
  | boolean : Consuming .boolean
  | literal {expected : Text} : expected ≠ [] → Consuming (.literal expected)
  | zipFirst {a b : Grammar} : Consuming a → Consuming (.zip a b)
  | zipSecond {a b : Grammar} : Consuming b → Consuming (.zip a b)
  | zip3First {a b b' : Grammar} : Consuming a → Consuming (.zip3 a b b')
  | zip3Second {a b b' : Grammar} : Consuming b → Consuming (.zip3 a b b')
  | zip3Third {a b b' : Grammar} : Consuming b' → Consuming (.zip3 a b b')
  | orElse {a b : Grammar} : Consuming a → Consuming b → Consuming (.orElse a b)
  | choice {a : Grammar} {bs : List Grammar} :
      Consuming a → (∀ b ∈ bs, Consuming b) → Consuming (.choice a bs)
  | map {a : Grammar} (f : Value → Value) : Consuming a → Consuming (.map a f)
  | tryMap {a : Grammar} (f : Value → Except Text Value) : Consuming a → Consuming (.tryMap a f)
  | filter {a : Grammar} (keep : Value → Bool) (reason : Text) :
      Consuming a → Consuming (.filter a keep reason)
  | flatMap {a : Grammar} (k : Value → Grammar) : Consuming a → Consuming (.flatMap a k)

variable {rules : Rules}

theorem Consuming.parser_shortens {g : Grammar} (hcons : g.Consuming) (hr : rules.ScriptFree)
    (hg : g.ScriptFree) (depth : Nat) : (g.parser rules depth).Shortens := by
  -- The parts that need not consume anything go forward all the same.
  have forward : ∀ {a : Grammar}, a.ScriptFree → (a.parser rules depth).Forward :=
    fun ha ↦ Parser.compositional_forward.parser hr depth ha
  induction hcons with
  | anyChar => exact Parser.shortens_anyChar.map _
  | integer => exact Parser.shortens_integer.map _
  | boolean => exact Parser.shortens_boolean.map _
  | literal hx => exact (Parser.shortens_literal hx).map _
  | zipFirst _ iha =>
      cases hg with
      | zip ha hb => exact ((iha ha).zip_left (forward hb)).map _
  | zipSecond _ ihb =>
      cases hg with
      | zip ha hb => exact (Parser.Shortens.zip_right (forward ha) (ihb hb)).map _
  | zip3First _ iha =>
      cases hg with
      | zip3 ha hb hb' =>
          have hrest := Parser.compositional_forward.zip (forward hb) (forward hb')
          exact ((iha ha).zip_left hrest).map _
  | zip3Second _ ihb =>
      cases hg with
      | zip3 ha hb hb' =>
          exact (Parser.Shortens.zip_right (forward ha) ((ihb hb).zip_left (forward hb'))).map _
  | zip3Third _ ihb' =>
      cases hg with
      | zip3 ha hb hb' =>
          have hrest := Parser.Shortens.zip_right (forward hb) (ihb' hb')
          exact (Parser.Shortens.zip_right (forward ha) hrest).map _
  | orElse _ _ iha ihb =>
      cases hg with
      | orElse ha hb => exact (iha ha).orElse (ihb hb)
  | @choice a bs _ _ iha ihbs =>
      cases hg with
      | choice ha hbs =>
          rw [parser, interpret, interpretAll_eq_map]
          refine (iha ha).choice fun q hq ↦ ?_
          obtain ⟨b, hb, rfl⟩ := List.mem_map.mp hq
          exact ihbs b hb (hbs b hb)
  | map f _ iha =>
      cases hg with
      | map _ ha => exact (iha ha).map f
  | tryMap f _ iha =>
      cases hg with
      | tryMap _ ha => exact (iha ha).tryMap f
  | filter keep reason _ iha =>
      cases hg with
      | filter _ _ ha => exact (iha ha).filter keep reason
  | flatMap k _ iha =>
      cases hg with
      | flatMap ha hk => exact (iha ha).flatMap fun v ↦ forward (hk v)

/-- What a consuming grammar without scripts leaves is less than there was. -/
theorem Consuming.shortens {g : Grammar} {c d : Cursor} {v : Value} (hcons : g.Consuming)
    (hr : rules.ScriptFree) (hg : g.ScriptFree) (hc : c.WellFormed)
    (h : g.Succeeds rules c v d) : d.rest.byteSize < c.rest.byteSize := by
  obtain ⟨depth, h⟩ := h
  exact (hcons.parser_shortens hr hg depth).byteSize_rest_lt hc h

end Grammar

end Backtrack
