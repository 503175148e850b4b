import Backtrack.Proofs.Parser.Outcome
import Backtrack.Proofs.Text.Boundary
import Mathlib.Tactic.TFAE

/-!
# Cursors on boundaries

A cursor on a boundary cuts its text between two characters, so the text is what was
consumed followed by what is left, and all ways to ask whether something is left agree.  The
start of a text is a boundary, and an advance ends on one wherever it starts.

Between two cursors in one text stands the text that is consumed on the way from the one to
the other.  It is determined by them, and on a way through a third cursor it is put together
from the two parts of the way.
-/

namespace Backtrack.Cursor

/-- The cursor stands on a boundary of its text. -/
def OnBoundary (c : Cursor) : Prop := c.source.IsBoundary c.position

theorem WellFormed.onBoundary {c : Cursor} (h : c.WellFormed) : c.OnBoundary := h.boundary

theorem onBoundary_start (t : Text) : (start t).OnBoundary := Text.isBoundary_zero t

theorem onBoundary_advance (c : Cursor) (n : Nat) : (c.advance n).OnBoundary :=
  Text.isBoundary_ceilBoundary _ _

/-- In a text that fits in memory, an advance ends where the sum of the positions is rounded
to, however great the sum is. -/
theorem position_advance {c : Cursor} (h : c.source.Addressable) (n : Nat) :
    (c.advance n).position = c.source.ceilBoundary (c.position + n) := by
  change c.source.ceilBoundary (min (c.position + n) positionLimit) = _
  have ha : c.source.byteSize ≤ 0x7fffffffffffffff := h
  rcases Nat.le_total (c.position + n) positionLimit with hle | hle
  · rw [Nat.min_eq_left hle]
  · have hlimit : c.source.byteSize ≤ positionLimit := by
      rw [positionLimit]
      omega
    rw [Nat.min_eq_right hle, Text.ceilBoundary_of_byteSize_le hlimit,
      Text.ceilBoundary_of_byteSize_le (Nat.le_trans hlimit hle)]

variable {c : Cursor}

/-- On a boundary, the text is cut into what stands before the cursor and what is left. -/
theorem OnBoundary.exists_before (h : c.OnBoundary) :
    ∃ before, c.source = before ++ c.rest ∧ before.byteSize = c.position := by
  obtain ⟨p, q, hs, hp⟩ := h
  refine ⟨p, ?_, hp⟩
  rw [rest, hs, ← hp, Text.dropBytes_append]

/-- What is left of a text that fits in memory does so too. -/
theorem WellFormed.addressable_rest (h : c.WellFormed) : c.rest.Addressable := by
  obtain ⟨p, hs, -⟩ := h.onBoundary.exists_before
  exact .of_append (hs ▸ h.addressable)

/-- What stands before the cursor is what an exact cut takes. -/
theorem OnBoundary.exists_consumed (h : c.OnBoundary) :
    ∃ consumed, c.source.takeBytes? c.position = some consumed ∧
      c.source = consumed ++ c.rest := by
  obtain ⟨p, hs, hp⟩ := h.exists_before
  exact ⟨p, Text.takeBytes?_eq_some.mpr ⟨⟨c.rest, hs⟩, hp⟩, hs⟩

theorem OnBoundary.atEnd_iff (h : c.OnBoundary) : c.atEnd = true ↔ c.rest = [] := by
  obtain ⟨p, hs, hp⟩ := h.exists_before
  have hsum : c.source.byteSize = p.byteSize + c.rest.byteSize := by
    rw [← Text.byteSize_append, ← hs]
  rw [atEnd, decide_eq_true_iff, ← Text.byteSize_eq_zero]
  omega

theorem peek_eq_none : c.peek = none ↔ c.rest = [] := List.head?_eq_none_iff

/-- On a boundary, all ways to ask whether the input is used up have the same answer. -/
theorem OnBoundary.atEnd_tfae (h : c.OnBoundary) :
    [c.atEnd = true, c.rest = [], c.peek = none,
      ∃ d, Parser.anyChar.Fails c .endOfInput d].TFAE := by
  have hchar : (∃ d, Parser.anyChar.Fails c .endOfInput d) ↔ c.peek = none := by
    simp [Parser.fails_anyChar]
  tfae_have 1 ↔ 2 := h.atEnd_iff
  tfae_have 3 ↔ 2 := peek_eq_none
  tfae_have 4 ↔ 3 := hchar
  tfae_finish

/-! ## Consumed texts -/

/-- On the way from `c` to `d` exactly the text `t` is consumed. -/
structure Consumes (c : Cursor) (t : Text) (d : Cursor) : Prop where
  source : d.source = c.source
  rest : c.rest = t ++ d.rest
  position : d.position = c.position + t.byteSize

theorem consumes_nil (c : Cursor) : c.Consumes [] c := ⟨rfl, rfl, rfl⟩

theorem Consumes.append {m d : Cursor} {s t : Text} (h : c.Consumes s m)
    (h' : m.Consumes t d) : c.Consumes (s ++ t) d where
  source := h'.source.trans h.source
  rest := by rw [h.rest, h'.rest, List.append_assoc]
  position := by rw [h'.position, h.position, Text.byteSize_append, Nat.add_assoc]

/-- What is consumed between two cursors is determined by them. -/
theorem Consumes.unique {d : Cursor} {s t : Text} (h : c.Consumes s d) (h' : c.Consumes t d) :
    s = t :=
  List.append_cancel_right (h.rest.symm.trans h'.rest)

/-- Advancing by the size of a text that comes next consumes that text. -/
theorem WellFormed.consumes_advance (h : c.WellFormed) {t u : Text} (hr : c.rest = t ++ u) :
    c.Consumes t (c.advance t.byteSize) := by
  obtain ⟨p, hs, hp⟩ := h.onBoundary.exists_before
  rw [hr] at hs
  have hpos : (c.advance t.byteSize).position = c.position + t.byteSize := by
    rw [position_advance h.addressable, hs, ← hp, Text.ceilBoundary_append_add,
      Text.ceilBoundary_append]
  have hrest : (c.advance t.byteSize).rest = u := by
    rw [rest, hpos, source_advance, hs, ← hp, Text.dropBytes_append_add, Text.dropBytes_append]
  exact ⟨rfl, by rw [hr, hrest], hpos⟩

/-- A text that comes next is consumed on the way to where advancing by its size ends, and on
no other one. -/
theorem WellFormed.consumes_iff (h : c.WellFormed) {d : Cursor} {t : Text}
    (ht : t <+: c.rest) : c.Consumes t d ↔ d = c.advance t.byteSize := by
  obtain ⟨u, hu⟩ := ht
  have ha := h.consumes_advance hu.symm
  constructor
  · intro hd
    exact Cursor.ext (hd.source.trans ha.source.symm) (hd.position.trans ha.position.symm)
  · rintro rfl
    exact ha

/-- A way that consumes a text ends at a boundary. -/
theorem Consumes.wellFormed {d : Cursor} {t : Text} (h : c.Consumes t d) (hc : c.WellFormed) :
    d.WellFormed := by
  obtain ⟨p, hs, hp⟩ := hc.onBoundary.exists_before
  refine ⟨⟨p ++ t, d.rest, ?_, ?_⟩, h.source ▸ hc.addressable⟩
  · rw [h.source, hs, h.rest, List.append_assoc]
  · rw [Text.byteSize_append, hp, h.position]

/-- A way that consumes two texts passes between them. -/
theorem WellFormed.consumes_append_iff (hc : c.WellFormed) {d : Cursor} {s t : Text} :
    c.Consumes (s ++ t) d ↔ ∃ m, c.Consumes s m ∧ m.Consumes t d := by
  constructor
  · intro h
    have hrest : c.rest = s ++ (t ++ d.rest) := by rw [h.rest, List.append_assoc]
    have hm := hc.consumes_advance hrest
    refine ⟨_, hm, h.source.trans hm.source.symm, ?_, ?_⟩
    · exact List.append_cancel_left (hm.rest.symm.trans hrest)
    · rw [h.position, hm.position, Text.byteSize_append, Nat.add_assoc]
  · rintro ⟨m, hs, ht⟩
    exact hs.append ht

end Backtrack.Cursor
