import Backtrack.Text.Basic

/-!
# Positions in texts

How the operations on byte positions work together: cutting a text off at a position,
rounding a position up to a boundary, and taking an exact number of bytes.  None of them
sees what stands in front of the position, so a text in front of another one shifts their
results and changes nothing else.
-/

namespace Backtrack.Text

/-! ## Boundaries -/

/-- A boundary is not beyond the end. -/
theorem IsBoundary.le_byteSize {t : Text} {n : Nat} (h : t.IsBoundary n) : n ≤ t.byteSize := by
  obtain ⟨p, q, rfl, rfl⟩ := h
  rw [byteSize_append]
  omega

/-- The end of a text that fits in memory does so too. -/
theorem Addressable.of_append {s t : Text} (h : Addressable (s ++ t)) : t.Addressable := by
  rw [Addressable, byteSize_append] at h
  rw [Addressable]
  omega

/-- An exact cut takes the characters in front of a boundary. -/
theorem takeBytes?_eq_some {t p : Text} {n : Nat} :
    t.takeBytes? n = some p ↔ (∃ q, t = p ++ q) ∧ p.byteSize = n := by
  induction t generalizing n p with
  | nil =>
      cases n with
      | zero =>
          constructor
          · rintro ⟨⟩
            exact ⟨⟨[], rfl⟩, rfl⟩
          · rintro ⟨⟨q, h⟩, -⟩
            rw [(List.append_eq_nil_iff.mp h.symm).1, takeBytes?]
      | succ n =>
          constructor
          · rintro ⟨⟩
          · rintro ⟨⟨q, h⟩, hp⟩
            rw [(List.append_eq_nil_iff.mp h.symm).1] at hp
            cases hp
  | cons c t ih =>
      have hc := c.utf8Size_pos
      cases n with
      | zero =>
          rw [takeBytes?, byteSize_eq_zero]
          constructor
          · rintro ⟨⟩
            exact ⟨⟨c :: t, rfl⟩, rfl⟩
          · rintro ⟨-, rfl⟩
            rfl
      | succ n =>
          rw [takeBytes?]
          constructor
          · intro h
            split at h
            · next hle =>
                obtain ⟨p, hp, rfl⟩ := Option.map_eq_some_iff.mp h
                obtain ⟨⟨q, rfl⟩, hn⟩ := ih.mp hp
                exact ⟨⟨q, rfl⟩, by rw [byteSize_cons, hn]; omega⟩
            · cases h
          · rintro ⟨⟨q, h⟩, hn⟩
            cases p with
            | nil => cases hn
            | cons d p =>
                obtain ⟨rfl, rfl⟩ := List.cons_eq_cons.mp h
                rw [byteSize_cons] at hn
                rw [if_pos (by omega), ih.mpr ⟨⟨q, rfl⟩, by omega⟩, Option.map_some]

/-! ## What is left -/

theorem byteSize_le_of_suffix {s t : Text} (h : s <:+ t) : s.byteSize ≤ t.byteSize := by
  obtain ⟨p, rfl⟩ := h
  rw [byteSize_append]
  exact Nat.le_add_left _ _

/-- An end of a text that is as long is the whole text. -/
theorem eq_of_suffix {s t : Text} (h : s <:+ t) (hs : s.byteSize = t.byteSize) : s = t := by
  obtain ⟨p, rfl⟩ := h
  rw [byteSize_append] at hs
  obtain rfl : p = [] := byteSize_eq_zero.mp (by omega)
  rfl

/-- What is left after more bytes is the end of what is left after fewer. -/
theorem dropBytes_suffix {m n : Nat} (h : m ≤ n) (t : Text) : t.dropBytes n <:+ t.dropBytes m := by
  induction t generalizing m n with
  | nil => simp
  | cons c t ih =>
      rcases Nat.eq_zero_or_pos n with rfl | hn
      · obtain rfl : m = 0 := by omega
        exact List.suffix_refl _
      · rw [dropBytes_cons hn]
        rcases Nat.eq_zero_or_pos m with rfl | hm
        · have hs := ih (m := 0) (n := n - c.utf8Size) (by omega)
          rw [dropBytes_zero] at hs ⊢
          exact hs.trans (List.suffix_cons c t)
        · rw [dropBytes_cons hm]
          exact ih (by omega)

/-- What is left does not depend on what stands in front. -/
theorem dropBytes_append_add (p t : Text) (n : Nat) :
    (p ++ t).dropBytes (p.byteSize + n) = t.dropBytes n := by
  induction p with
  | nil => simp
  | cons c p ih =>
      have := c.utf8Size_pos
      have hn : c.utf8Size + byteSize p + n - c.utf8Size = byteSize p + n := by omega
      rw [List.cons_append, byteSize_cons, dropBytes_cons (by omega), hn, ih]

/-! ## Rounding up -/

/-- Rounding up to a boundary goes back only from beyond the end. -/
theorem min_le_ceilBoundary (t : Text) (n : Nat) : min n t.byteSize ≤ t.ceilBoundary n := by
  induction t generalizing n with
  | nil => simp
  | cons c t ih =>
      rcases Nat.eq_zero_or_pos n with rfl | hn
      · simp
      · have h := ih (n - c.utf8Size)
        rw [ceilBoundary_cons hn, byteSize_cons]
        omega

/-- From the end on, rounding gives the end. -/
theorem ceilBoundary_of_byteSize_le {t : Text} {n : Nat} (h : t.byteSize ≤ n) :
    t.ceilBoundary n = t.byteSize := by
  have hle := (isBoundary_ceilBoundary t n).le_byteSize
  have hge := t.min_le_ceilBoundary n
  omega

/-- Rounding up does not depend on what stands in front. -/
theorem ceilBoundary_append_add (p t : Text) (n : Nat) :
    (p ++ t).ceilBoundary (p.byteSize + n) = p.byteSize + t.ceilBoundary n := by
  induction p with
  | nil => simp
  | cons c p ih =>
      have := c.utf8Size_pos
      have hn : c.utf8Size + byteSize p + n - c.utf8Size = byteSize p + n := by omega
      rw [List.cons_append, byteSize_cons, ceilBoundary_cons (by omega), hn, ih, Nat.add_assoc]

end Backtrack.Text
