import Backtrack.Proofs.Cursor
import Backtrack.Proofs.Grammar.ScriptFree

/-!
# Where parsers leave the cursor

The lexical parsers only advance the cursor, and what the combinators put it back to is a
start.  So whatever can be said of all advances, one after the other, can be said of the
cursors that a parser leaves after a success or a failure (`Parser.compositional_moves`).
From a cursor one can reach the cursors that stand further on in the same text, and a parser
goes forward if it leaves only those; grammars without scripts do.  What can be reached is
where some text ends that is consumed, and the lexical parsers say which one.
-/

namespace Backtrack

namespace Cursor

/-- `d` stands at or after `c` in the same text, and at a boundary. -/
structure Reaches (c d : Cursor) : Prop where
  source : d.source = c.source
  position : c.position ≤ d.position
  wellFormed : d.WellFormed

theorem Reaches.refl {c : Cursor} (h : c.WellFormed) : c.Reaches c := ⟨rfl, Nat.le_refl _, h⟩

theorem Reaches.trans {c d e : Cursor} (h : c.Reaches d) (h' : d.Reaches e) : c.Reaches e :=
  ⟨h'.source.trans h.source, Nat.le_trans h.position h'.position, h'.wellFormed⟩

/-- What is left at a cursor that is reached is an end of what was left. -/
theorem Reaches.rest_suffix {c d : Cursor} (h : c.Reaches d) : d.rest <:+ c.rest := by
  rw [rest, rest, h.source]
  exact Text.dropBytes_suffix h.position c.source

theorem WellFormed.reaches_advance {c : Cursor} (h : c.WellFormed) (n : Nat) :
    c.Reaches (c.advance n) := by
  refine ⟨rfl, ?_, h.advance n⟩
  have hb := h.boundary.le_byteSize
  have hc := c.source.min_le_ceilBoundary (c.position + n)
  rw [position_advance h.addressable]
  omega

/-- What can be reached is where some text ends that is consumed. -/
theorem WellFormed.reaches_iff {c d : Cursor} (hc : c.WellFormed) :
    c.Reaches d ↔ ∃ t, c.Consumes t d := by
  constructor
  · intro h
    obtain ⟨t, ht⟩ := h.rest_suffix
    obtain ⟨p, hs, hp⟩ := hc.onBoundary.exists_before
    obtain ⟨p', hs', hp'⟩ := h.wellFormed.onBoundary.exists_before
    have hpre : p' = p ++ t := by
      rw [h.source, hs, ← ht, ← List.append_assoc] at hs'
      exact (List.append_cancel_right hs').symm
    refine ⟨t, h.source, ht.symm, ?_⟩
    rw [← hp', hpre, Text.byteSize_append, hp]
  · rintro ⟨t, ht⟩
    refine ⟨ht.source, ?_, ht.wellFormed hc⟩
    rw [ht.position]
    exact Nat.le_add_right _ _

/-- A relation between the cursors before and after any number of advances. -/
structure Motion (R : Cursor → Cursor → Prop) : Prop where
  refl (c : Cursor) : R c c
  trans {c d e : Cursor} : R c d → R d e → R c e
  advance (c : Cursor) (n : Nat) : R c (c.advance n)

theorem motion_reaches : Motion fun c d ↦ c.WellFormed → c.Reaches d where
  refl _ := .refl
  trans h h' hc := (h hc).trans (h' (h hc).wellFormed)
  advance _ n hc := hc.reaches_advance n

end Cursor

namespace Parser

variable {α : Type}

/-- Every cursor that the parser leaves is in a relation to where it started. -/
structure Moves (R : Cursor → Cursor → Prop) (p : Parser α) : Prop where
  succeeds {c d : Cursor} {a : α} : p.Succeeds c a d → R c d
  fails {c d : Cursor} {e : Failure} : p.Fails c e d → R c d

theorem moves_iff {R : Cursor → Cursor → Prop} {p : Parser α} :
    p.Moves R ↔ ∀ c r, p.parse c = some r → R c r.cursor := by
  refine ⟨fun h c r hr ↦ ?_, fun h ↦ ⟨fun ⟨_, hr⟩ ↦ h _ _ hr, fun ⟨_, hr⟩ ↦ h _ _ hr⟩⟩
  rcases r with ⟨e | a, d, es⟩
  · exact h.fails ⟨es, hr⟩
  · exact h.succeeds ⟨es, hr⟩

theorem compositional_moves {R : Cursor → Cursor → Prop} (hR : Cursor.Motion R) :
    Compositional fun _ p ↦ p.Moves R where
  endless := ⟨fun h ↦ absurd h succeeds_endless, fun h ↦ absurd h fails_endless⟩
  always a := by
    refine ⟨fun h ↦ ?_, fun h ↦ absurd h fails_always⟩
    obtain ⟨rfl, rfl⟩ := succeeds_always.mp h
    exact hR.refl _
  never := by
    refine ⟨fun h ↦ absurd h succeeds_never, fun h ↦ ?_⟩
    obtain ⟨rfl, rfl⟩ := fails_never.mp h
    exact hR.refl _
  anyChar := by
    refine ⟨fun h ↦ ?_, fun h ↦ ?_⟩
    · obtain ⟨_, rfl⟩ := succeeds_anyChar.mp h
      exact hR.advance _ _
    · obtain ⟨_, _, rfl⟩ := fails_anyChar.mp h
      exact hR.refl _
  literal x := by
    refine ⟨fun h ↦ ?_, fun h ↦ ?_⟩
    · obtain ⟨_, rfl⟩ := succeeds_literal.mp h
      exact hR.advance _ _
    · obtain ⟨_, _, rfl⟩ := fails_literal.mp h
      exact hR.refl _
  span accepts := by
    refine ⟨fun h ↦ ?_, fun h ↦ absurd h fails_span⟩
    obtain ⟨_, rfl⟩ := succeeds_span.mp h
    exact hR.advance _ _
  integer := by
    refine ⟨fun h ↦ ?_, fun h ↦ ?_⟩
    · obtain ⟨_, rfl⟩ := succeeds_integer.mp h
      exact hR.advance _ _
    · obtain ⟨_, _, rfl⟩ := fails_integer.mp h
      exact hR.refl _
  map f hp := by
    refine ⟨fun h ↦ ?_, fun h ↦ hp.fails (fails_map.mp h)⟩
    obtain ⟨a, ha, _⟩ := succeeds_map.mp h
    exact hp.succeeds ha
  tryMap f hp := by
    refine ⟨fun h ↦ ?_, fun h ↦ ?_⟩
    · obtain ⟨a, ha, _⟩ := succeeds_tryMap.mp h
      exact hp.succeeds ha
    · rcases fails_tryMap.mp h with h | ⟨a, _, ha, _⟩
      · exact hp.fails h
      · exact hp.succeeds ha
  filter keep reason hp := by
    refine ⟨fun h ↦ hp.succeeds (succeeds_filter.mp h).1, fun h ↦ ?_⟩
    rcases fails_filter.mp h with h | ⟨_, _, rfl⟩
    · exact hp.fails h
    · exact hR.refl _
  zip hp hq := by
    refine ⟨fun h ↦ ?_, fun h ↦ ?_⟩
    · obtain ⟨m, ha, hb⟩ := succeeds_zip.mp h
      exact hR.trans (hp.succeeds ha) (hq.succeeds hb)
    · rcases fails_zip.mp h with h | ⟨_, rfl⟩
      · exact hp.fails h
      · exact hR.refl _
  flatMap hp hk := by
    refine ⟨fun h ↦ ?_, fun h ↦ ?_⟩
    · obtain ⟨a, m, ha, hb⟩ := succeeds_flatMap.mp h
      exact hR.trans (hp.succeeds ha) ((hk a).succeeds hb)
    · rcases fails_flatMap.mp h with h | ⟨_, rfl⟩
      · exact hp.fails h
      · exact hR.refl _
  orElse hp hq := by
    refine ⟨fun h ↦ ?_, fun h ↦ ?_⟩
    · rcases succeeds_orElse.mp h with h | ⟨_, h⟩
      · exact hp.succeeds h
      · exact hq.succeeds h
    · obtain ⟨_, rfl⟩ := fails_orElse.mp h
      exact hR.refl _
  choice hp hqs := by
    refine ⟨fun h ↦ ?_, fun h ↦ ?_⟩
    · obtain ⟨q, hq, ha⟩ := (succeeds_choice.mp h).exists_mem
      rcases List.mem_cons.mp hq with rfl | hq
      · exact hp.succeeds ha
      · exact (hqs q hq).succeeds ha
    · obtain ⟨_, rfl⟩ := fails_choice.mp h
      exact hR.refl _

/-- Every cursor that the parser leaves can be reached from where it started. -/
structure Forward (p : Parser α) : Prop where
  succeeds {c d : Cursor} {a : α} : c.WellFormed → p.Succeeds c a d → c.Reaches d
  fails {c d : Cursor} {e : Failure} : c.WellFormed → p.Fails c e d → c.Reaches d

theorem moves_reaches_iff {p : Parser α} :
    p.Moves (fun c d ↦ c.WellFormed → c.Reaches d) ↔ p.Forward :=
  ⟨fun h ↦ ⟨fun hc hp ↦ h.succeeds hp hc, fun hc hp ↦ h.fails hp hc⟩,
    fun h ↦ ⟨fun hp hc ↦ h.succeeds hc hp, fun hp hc ↦ h.fails hc hp⟩⟩

theorem compositional_forward : Compositional @Forward :=
  (compositional_moves Cursor.motion_reaches).congr fun _ _ ↦ moves_reaches_iff

/-! ## What the lexical parsers consume -/

variable {c d : Cursor}

theorem consumes_anyChar {x : Char} (hc : c.WellFormed) (h : anyChar.Succeeds c x d) :
    c.Consumes [x] d := by
  obtain ⟨hx, rfl⟩ := succeeds_anyChar.mp h
  obtain ⟨t, ht⟩ := List.head?_eq_some_iff.mp hx
  exact hc.consumes_advance ht

theorem consumes_literal {x : Text} {u : Unit} (hc : c.WellFormed)
    (h : (literal x).Succeeds c u d) : c.Consumes x d := by
  obtain ⟨hx, rfl⟩ := succeeds_literal.mp h
  obtain ⟨t, ht⟩ := List.isPrefixOf_iff_prefix.mp hx
  exact hc.consumes_advance ht.symm

theorem consumes_takeWhile (hc : c.WellFormed) (accepts : Char → Bool) :
    c.Consumes (c.rest.takeWhile accepts)
      (c.advance (Text.byteSize (c.rest.takeWhile accepts))) :=
  hc.consumes_advance List.takeWhile_append_dropWhile.symm

theorem consumes_span {accepts : Char → Bool} {t : Text} (hc : c.WellFormed)
    (h : (span accepts).Succeeds c t d) : c.Consumes t d := by
  obtain ⟨rfl, rfl⟩ := succeeds_span.mp h
  exact consumes_takeWhile hc accepts

theorem consumes_integer {n : Int64} (hc : c.WellFormed) (h : integer.Succeeds c n d) :
    c.Consumes (c.rest.takeWhile Text.isNumeric) d := by
  obtain ⟨_, rfl⟩ := succeeds_integer.mp h
  exact consumes_takeWhile hc Text.isNumeric

end Parser

end Backtrack
