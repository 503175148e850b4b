import Backtrack.Proofs.Text.Boundary
import Mathlib.Order.Bounds.Basic

/-!
# Rounding up to a boundary

Rounding up gives the least boundary that is not below the position, or the end of the text
(`isLeast_ceilBoundary`), so it keeps the order of positions.

In its UTF-8 form, a character is one first byte and some bytes that continue it, and a byte
shows by itself which kind it is.  So the least boundary can be searched for one byte at a time,
without knowing where the characters in front of it end (`skips_iff`).  Nothing bounds the number
of steps but the text itself: the search comes to an end because the end of the text is a
boundary too.
-/

namespace Backtrack.Text

variable {t : Text} {m n : Nat}

/-! ## The least boundary -/

theorem IsBoundary.ceilBoundary_eq (h : t.IsBoundary n) : t.ceilBoundary n = n := by
  obtain ⟨p, q, rfl, rfl⟩ := h
  exact ceilBoundary_append p q

theorem ceilBoundary_mono (t : Text) (h : m ≤ n) : t.ceilBoundary m ≤ t.ceilBoundary n := by
  induction t generalizing m n with
  | nil => simp
  | cons c t ih =>
      rcases Nat.eq_zero_or_pos m with rfl | hm
      · simp
      · have htail := ih (m := m - c.utf8Size) (n := n - c.utf8Size) (by omega)
        rw [ceilBoundary_cons hm, ceilBoundary_cons (by omega)]
        omega

/-- Rounding up gives the least boundary that is not below the position, or the end. -/
theorem isLeast_ceilBoundary (t : Text) (n : Nat) :
    IsLeast {m | t.IsBoundary m ∧ min n t.byteSize ≤ m} (t.ceilBoundary n) := by
  refine ⟨⟨isBoundary_ceilBoundary t n, min_le_ceilBoundary t n⟩, ?_⟩
  rintro m ⟨hm, hle⟩
  rcases Nat.le_total n t.byteSize with hn | hn
  · rw [Nat.min_eq_left hn] at hle
    have hmono := t.ceilBoundary_mono hle
    rwa [hm.ceilBoundary_eq] at hmono
  · rw [Nat.min_eq_right hn] at hle
    rwa [ceilBoundary_of_byteSize_le hn]

/-- Going back to the end first changes nothing. -/
theorem ceilBoundary_min_byteSize (t : Text) (n : Nat) :
    t.ceilBoundary (min n t.byteSize) = t.ceilBoundary n := by
  rcases Nat.le_total n t.byteSize with hn | hn
  · rw [Nat.min_eq_left hn]
  · rw [Nat.min_eq_right hn, ceilBoundary_of_byteSize_le (Nat.le_refl _),
      ceilBoundary_of_byteSize_le hn]

/-- A position is rounded to the same boundary as the next one, unless it is one itself. -/
theorem ceilBoundary_succ (hn : ¬ t.IsBoundary n) (hlt : n < t.byteSize) :
    t.ceilBoundary (n + 1) = t.ceilBoundary n := by
  refine Nat.le_antisymm ((t.isLeast_ceilBoundary (n + 1)).2 ?_)
    (t.ceilBoundary_mono (Nat.le_succ n))
  have hb := isBoundary_ceilBoundary t n
  have hle := t.min_le_ceilBoundary n
  have hne : t.ceilBoundary n ≠ n := fun h ↦ hn (h ▸ hb)
  exact ⟨hb, by omega⟩

/-- Rounding before adding does not lead back. -/
theorem ceilBoundary_add_le (t : Text) (m n : Nat) :
    t.ceilBoundary (m + n) ≤ t.ceilBoundary (t.ceilBoundary m + n) := by
  rcases Nat.le_total m t.byteSize with hm | hm
  · have hle := t.min_le_ceilBoundary m
    exact t.ceilBoundary_mono (by omega)
  · rw [ceilBoundary_of_byteSize_le hm, ceilBoundary_of_byteSize_le (by omega),
      ceilBoundary_of_byteSize_le (by omega)]

/-- Rounding before adding changes nothing at a boundary, and nothing from the end on. -/
theorem ceilBoundary_ceilBoundary_add (h : t.IsBoundary m ∨ t.byteSize ≤ m) (n : Nat) :
    t.ceilBoundary (t.ceilBoundary m + n) = t.ceilBoundary (m + n) := by
  rcases h with hm | hm
  · rw [hm.ceilBoundary_eq]
  · rw [ceilBoundary_of_byteSize_le hm, ceilBoundary_of_byteSize_le (by omega),
      ceilBoundary_of_byteSize_le (by omega)]

/-! ## Bytes -/

/-- The UTF-8 form of a text. -/
def bytes (t : Text) : List UInt8 := t.flatMap String.utf8EncodeChar

theorem bytes_cons (c : Char) (t : Text) :
    bytes (c :: t) = String.utf8EncodeChar c ++ bytes t := List.flatMap_cons

theorem length_bytes (t : Text) : t.bytes.length = t.byteSize := by
  induction t with
  | nil => rfl
  | cons c t ih =>
      rw [bytes_cons, List.length_append, String.length_utf8EncodeChar, ih, byteSize_cons]

/-- The byte is one of a character, but not the first one. -/
def Continues (b : UInt8) : Prop := 0x80 ≤ b.toNat ∧ b.toNat < 0xc0

/-- A character is a first byte and bytes that continue it. -/
theorem exists_utf8EncodeChar (c : Char) : ∃ b bs,
    String.utf8EncodeChar c = b :: bs ∧ ¬ Continues b ∧ ∀ x ∈ bs, Continues x := by
  have hlow : ∀ k, Continues (UInt8.ofNat (k % 64 + 128)) := by
    intro k
    rw [Continues, UInt8.toNat_ofNat']
    omega
  have hfirst : ∀ k, k < 128 ∨ 192 ≤ k → k < 256 → ¬ Continues (UInt8.ofNat k) := by
    intro k hk hlt
    rw [Continues, UInt8.toNat_ofNat']
    omega
  rw [String.utf8EncodeChar]
  split
  · exact ⟨_, _, rfl, hfirst _ (by omega) (by omega), List.forall_mem_nil _⟩
  · split
    · exact ⟨_, _, rfl, hfirst _ (by omega) (by omega), List.forall_mem_singleton.mpr (hlow _)⟩
    · split
      · exact ⟨_, _, rfl, hfirst _ (by omega) (by omega),
          List.forall_mem_cons.mpr ⟨hlow _, List.forall_mem_singleton.mpr (hlow _)⟩⟩
      · exact ⟨_, _, rfl, hfirst _ (by omega) (by omega), List.forall_mem_cons.mpr
          ⟨hlow _, List.forall_mem_cons.mpr ⟨hlow _, List.forall_mem_singleton.mpr (hlow _)⟩⟩⟩

/-- The position is at the end, or at a byte that does not continue a character. -/
def StopsAt (bs : List UInt8) (n : Nat) : Prop :=
  n = bs.length ∨ ∃ b, bs[n]? = some b ∧ ¬ Continues b

theorem isBoundary_cons {c : Char} :
    IsBoundary (c :: t) n ↔ n = 0 ∨ c.utf8Size ≤ n ∧ t.IsBoundary (n - c.utf8Size) := by
  constructor
  · rintro ⟨_ | ⟨d, p⟩, q, h, rfl⟩
    · exact .inl rfl
    · obtain ⟨rfl, rfl⟩ := List.cons_eq_cons.mp h
      rw [byteSize_cons]
      exact .inr ⟨by omega, p, q, rfl, by omega⟩
  · rintro (rfl | ⟨hle, p, q, rfl, hp⟩)
    · exact isBoundary_zero _
    · exact ⟨c :: p, q, rfl, by rw [byteSize_cons, hp]; omega⟩

/-- The bytes of a text show its boundaries. -/
theorem stopsAt_bytes : StopsAt t.bytes n ↔ t.IsBoundary n := by
  induction t generalizing n with
  | nil =>
      constructor
      · rintro (rfl | ⟨b, h, -⟩)
        · exact isBoundary_zero _
        · cases h
      · intro h
        exact .inl (Nat.le_zero.mp h.le_byteSize)
  | cons c t ih =>
      obtain ⟨b, bs, hc, hb, hbs⟩ := exists_utf8EncodeChar c
      have hsize : (b :: bs).length = c.utf8Size := by rw [← hc, String.length_utf8EncodeChar]
      rw [isBoundary_cons, bytes_cons, hc, StopsAt]
      rcases Nat.lt_or_ge n c.utf8Size with hn | hn
      · -- Inside the character there are only bytes that continue it.
        rw [List.length_append, List.getElem?_append_left (by omega), hsize]
        cases n with
        | zero => simp [hb]
        | succ n =>
            rw [List.getElem?_cons_succ]
            constructor
            · rintro (h | ⟨x, hx, hstop⟩)
              · omega
              · exact absurd (hbs x (List.mem_of_getElem? hx)) hstop
            · rintro (h | ⟨h, -⟩) <;> omega
      · have hpos := c.utf8Size_pos
        have hend : n = c.utf8Size + (bytes t).length ↔ n - c.utf8Size = (bytes t).length := by
          omega
        rw [List.length_append, List.getElem?_append_right (by omega), hsize, hend, ← ih, StopsAt]
        simp only [hn, true_and]
        exact (or_iff_right (by omega)).symm

/-! ## Search by bytes -/

/-- From position `n`, going on one byte at a time while a character is continued, the search
ends at position `m`. -/
inductive Skips (bs : List UInt8) : Nat → Nat → Prop
  | stop {n : Nat} : StopsAt bs n → Skips bs n n
  | next {n m : Nat} : ¬ StopsAt bs n → Skips bs (n + 1) m → Skips bs n m

theorem Skips.unique {bs : List UInt8} {m' : Nat} (h : Skips bs n m) (h' : Skips bs n m') :
    m = m' := by
  induction h with
  | stop hs =>
      cases h' with
      | stop => rfl
      | next hn => exact absurd hs hn
  | next hn _ ih =>
      cases h' with
      | stop hs => exact absurd hs hn
      | next _ h' => exact ih h'

/-- The search comes to an end, at the boundary that the position is rounded up to. -/
theorem skips_ceilBoundary (h : n ≤ t.byteSize) : Skips t.bytes n (t.ceilBoundary n) := by
  -- The induction is on the number of bytes to the end of the text, which is a boundary.
  obtain ⟨k, hk⟩ := Nat.exists_eq_add_of_le h
  induction k generalizing n with
  | zero =>
      obtain rfl : n = t.byteSize := by omega
      rw [ceilBoundary_of_byteSize_le (Nat.le_refl _)]
      exact .stop (stopsAt_bytes.mpr (isBoundary_byteSize t))
  | succ k ih =>
      by_cases hn : t.IsBoundary n
      · rw [hn.ceilBoundary_eq]
        exact .stop (stopsAt_bytes.mpr hn)
      · rw [← ceilBoundary_succ hn (by omega)]
        exact .next (stopsAt_bytes.not.mpr hn) (ih (by omega) (by omega))

theorem skips_iff (h : n ≤ t.byteSize) : Skips t.bytes n m ↔ m = t.ceilBoundary n := by
  refine ⟨fun hm ↦ hm.unique (skips_ceilBoundary h), ?_⟩
  rintro rfl
  exact skips_ceilBoundary h

end Backtrack.Text
