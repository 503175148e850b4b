import Backtrack.Proofs.Cursor
import Backtrack.Proofs.Text.Rounding

/-!
# Where an advance ends

An advance adds in bounded arithmetic, stops at the end of the text, and then looks at one byte
after the other for the next boundary.  None of these three shows in where it ends: from a cursor
on a boundary of a text that fits in memory, that is the least boundary that is not below the
sum, or the end of the text (`advance_least_boundary`).

Two advances end where one by both lengths ends, unless the first one has to be rounded up: it
asks for a place inside a character then, and the second one starts behind that place.
-/

namespace Backtrack.Cursor

variable {c : Cursor}

/-- An advance does not move back. -/
theorem WellFormed.le_position_advance (h : c.WellFormed) (n : Nat) :
    c.position ≤ (c.advance n).position := by
  have hle := c.source.min_le_ceilBoundary (c.position + n)
  have hpos := h.boundary.le_byteSize
  rw [position_advance h.addressable]
  omega

/-- The search by bytes that starts at the bounded sum, or at the end of the text, ends where
the advance does. -/
theorem skips_advance {n m : Nat} :
    Text.Skips c.source.bytes (min (min (c.position + n) positionLimit) c.source.bytes.length) m ↔
      m = (c.advance n).position := by
  rw [Text.length_bytes, Text.skips_iff (Nat.min_le_right _ _), Text.ceilBoundary_min_byteSize]
  rfl

/-- Where the first of two advances need not be rounded up, both are one by the sum. -/
theorem WellFormed.advance_advance (h : c.WellFormed) {a : Nat}
    (ha : c.source.IsBoundary (c.position + a) ∨ c.source.byteSize ≤ c.position + a) (b : Nat) :
    (c.advance a).advance b = c.advance (a + b) := by
  refine Cursor.ext rfl ?_
  rw [position_advance (h.advance a).addressable, source_advance, position_advance h.addressable,
    position_advance h.addressable, Text.ceilBoundary_ceilBoundary_add ha, Nat.add_assoc]

theorem WellFormed.position_advance_add_le (h : c.WellFormed) (a b : Nat) :
    (c.advance (a + b)).position ≤ ((c.advance a).advance b).position := by
  rw [position_advance (h.advance a).addressable, source_advance, position_advance h.addressable,
    position_advance h.addressable, ← Nat.add_assoc]
  exact c.source.ceilBoundary_add_le _ _

/-- In a text that fits in memory, an advance from a boundary ends at the least boundary that is
not below the sum of position and length, however great that is, or at the end.  The search
by bytes comes to an end there and nowhere else.  The cursor does not move back, and moves no less
far for a greater length.  Two advances are one by the sum of their lengths where the first asks
for a boundary or for the end and more; elsewhere they end where that one does or further on. -/
theorem advance_least_boundary (h : c.WellFormed) :
    (∀ n, (c.advance n).source = c.source ∧
      IsLeast {m | c.source.IsBoundary m ∧ min (c.position + n) c.source.byteSize ≤ m}
        (c.advance n).position ∧
      (∀ m, Text.Skips c.source.bytes
          (min (min (c.position + n) positionLimit) c.source.bytes.length) m ↔
        m = (c.advance n).position) ∧
      c.position ≤ (c.advance n).position) ∧
    (∀ m n, m ≤ n → (c.advance m).position ≤ (c.advance n).position) ∧
    ∀ a b,
      (c.source.IsBoundary (c.position + a) ∨ c.source.byteSize ≤ c.position + a →
        (c.advance a).advance b = c.advance (a + b)) ∧
      (c.advance (a + b)).position ≤ ((c.advance a).advance b).position := by
  refine ⟨fun n ↦ ⟨rfl, ?_, fun m ↦ skips_advance, h.le_position_advance n⟩, ?_,
    fun a b ↦ ⟨fun ha ↦ h.advance_advance ha b, h.position_advance_add_le a b⟩⟩
  · rw [position_advance h.addressable]
    exact c.source.isLeast_ceilBoundary _
  · intro m n hmn
    rw [position_advance h.addressable, position_advance h.addressable]
    exact c.source.ceilBoundary_mono (by omega)

/-- An advance into the accented letter goes on to its end, and the greatest one to the end of
the text, where the bounded sum is less than the true one.  Two advances to the end of the letter
and on are one, but of two advances by one the second starts behind the letter and passes the
symbol as well, which one advance by two does not reach. -/
theorem advance_least_boundary_symbols :
    let c : Cursor := ⟨['a', 'é', '🦀', '!'], 1⟩
    c.WellFormed ∧
      IsLeast {m | c.source.IsBoundary m ∧ min 2 8 ≤ m} 3 ∧
      IsLeast {m | c.source.IsBoundary m ∧
        min (c.position + 0xffffffffffffffff) c.source.byteSize ≤ m} 8 ∧
      Text.Skips c.source.bytes 4 7 ∧
      (1 ≤ 3 ∧ (c.advance 1).position ≤ (c.advance 3).position) ∧
      (c.source.IsBoundary 3 ∧ (c.advance 2).advance 5 = c.advance 7) ∧
      (c.advance 2).position = 3 ∧ ((c.advance 1).advance 1).position = 7 := by
  intro c
  have hc : c.WellFormed := ⟨⟨['a'], ['é', '🦀', '!'], rfl, rfl⟩, by decide⟩
  have hb : c.source.IsBoundary 3 := ⟨['a', 'é'], ['🦀', '!'], rfl, rfl⟩
  have hfar : (c.advance 0xffffffffffffffff).position = 8 := by decide
  obtain ⟨hone, hmono, hadd⟩ := advance_least_boundary hc
  have hend := (hone 0xffffffffffffffff).2.1
  rw [hfar] at hend
  exact ⟨hc, (hone 1).2.1, hend, ((hone 3).2.2.1 7).mpr rfl,
    ⟨by decide, hmono 1 3 (by decide)⟩, ⟨hb, (hadd 2 5).1 (.inl hb)⟩, rfl, rfl⟩

end Backtrack.Cursor
