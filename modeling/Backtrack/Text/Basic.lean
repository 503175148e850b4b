/-!
# Texts and their byte positions

A text is a list of characters.  Lengths and positions are counted in bytes of its
UTF-8 form, so a position may fall inside a character; the positions between two
characters are its *boundaries*.  Cutting a text at a boundary gives both of its
parts back (`dropBytes_append`), and every other position is rounded up to the next
boundary (`ceilBoundary`).
-/

namespace Backtrack

/-- A text: the characters in order. -/
abbrev Text := List Char

namespace Text

/-! ## Size -/

/-- The number of bytes of a text. -/
def byteSize (t : Text) : Nat := t.foldr (fun c n ↦ c.utf8Size + n) 0

@[simp] theorem byteSize_nil : byteSize [] = 0 := rfl

@[simp] theorem byteSize_cons (c : Char) (t : Text) :
    byteSize (c :: t) = c.utf8Size + byteSize t := rfl

@[simp] theorem byteSize_append (s t : Text) : byteSize (s ++ t) = byteSize s + byteSize t := by
  induction s with
  | nil => simp
  | cons c s ih => simp [ih, Nat.add_assoc]

/-- Only the empty text has no bytes. -/
theorem byteSize_eq_zero {t : Text} : byteSize t = 0 ↔ t = [] := by
  cases t with
  | nil => simp
  | cons c t =>
      have := c.utf8Size_pos
      simp only [byteSize_cons, reduceCtorEq, iff_false]
      omega

/-- A text fits in memory when its size is a signed 64-bit number. -/
def Addressable (t : Text) : Prop := byteSize t ≤ 0x7fffffffffffffff

instance (t : Text) : Decidable (Addressable t) :=
  inferInstanceAs (Decidable (byteSize t ≤ 0x7fffffffffffffff))

/-! ## Boundaries -/

/-- A position is a boundary of `t` when a whole number of characters ends there. -/
def IsBoundary (t : Text) (n : Nat) : Prop := ∃ p q, t = p ++ q ∧ byteSize p = n

/-- The start of a text is a boundary. -/
theorem isBoundary_zero (t : Text) : IsBoundary t 0 := ⟨[], t, rfl, rfl⟩

/-- The end of a text is a boundary. -/
theorem isBoundary_byteSize (t : Text) : IsBoundary t (byteSize t) := ⟨t, [], by simp, rfl⟩

/-- What is left of a text after its first `n` bytes; a character that ends after
byte `n` goes as a whole. -/
def dropBytes : Nat → Text → Text
  | 0, t => t
  | _ + 1, [] => []
  | n + 1, c :: t => dropBytes (n + 1 - c.utf8Size) t

@[simp] theorem dropBytes_zero (t : Text) : dropBytes 0 t = t := by
  cases t <;> rfl

@[simp] theorem dropBytes_nil (n : Nat) : dropBytes n [] = [] := by
  cases n <;> rfl

theorem dropBytes_cons {n : Nat} (h : 0 < n) (c : Char) (t : Text) :
    dropBytes n (c :: t) = dropBytes (n - c.utf8Size) t := by
  cases n with
  | zero => omega
  | succ n => rfl

/-- At a boundary a text is cut between its characters. -/
@[simp] theorem dropBytes_append (p q : Text) : dropBytes (byteSize p) (p ++ q) = q := by
  induction p with
  | nil => simp
  | cons c p ih =>
      have := c.utf8Size_pos
      rw [List.cons_append, byteSize_cons, dropBytes_cons (by omega), Nat.add_sub_cancel_left, ih]

/-- The least boundary of a text that is not below `n`, or its end when `n` is
beyond it. -/
def ceilBoundary : Text → Nat → Nat
  | _, 0 => 0
  | [], _ + 1 => 0
  | c :: t, n + 1 => c.utf8Size + ceilBoundary t (n + 1 - c.utf8Size)

@[simp] theorem ceilBoundary_zero (t : Text) : ceilBoundary t 0 = 0 := by
  cases t <;> rfl

@[simp] theorem ceilBoundary_nil (n : Nat) : ceilBoundary [] n = 0 := by
  cases n <;> rfl

theorem ceilBoundary_cons {n : Nat} (h : 0 < n) (c : Char) (t : Text) :
    ceilBoundary (c :: t) n = c.utf8Size + ceilBoundary t (n - c.utf8Size) := by
  cases n with
  | zero => omega
  | succ n => rfl

/-- Rounding up gives a boundary. -/
theorem isBoundary_ceilBoundary (t : Text) (n : Nat) : IsBoundary t (ceilBoundary t n) := by
  induction t generalizing n with
  | nil => exact ⟨[], [], rfl, by simp⟩
  | cons c t ih =>
      rcases Nat.eq_zero_or_pos n with rfl | h
      · simpa using isBoundary_zero (c :: t)
      · obtain ⟨p, q, rfl, hp⟩ := ih (n - c.utf8Size)
        exact ⟨c :: p, q, rfl, by rw [ceilBoundary_cons h, byteSize_cons, hp]⟩

/-- A boundary is its own rounding. -/
theorem ceilBoundary_append (p q : Text) : ceilBoundary (p ++ q) (byteSize p) = byteSize p := by
  induction p with
  | nil => simp
  | cons c p ih =>
      have := c.utf8Size_pos
      rw [List.cons_append, byteSize_cons, ceilBoundary_cons (by omega), Nat.add_sub_cancel_left,
        ih]

/-! ## Exact cuts -/

/-- The first `n` bytes of a text, if it has so many and they are whole characters. -/
def takeBytes? : Nat → Text → Option Text
  | 0, _ => some []
  | _ + 1, [] => none
  | n + 1, c :: t =>
    if c.utf8Size ≤ n + 1 then (takeBytes? (n + 1 - c.utf8Size) t).map (c :: ·) else none

end Text

end Backtrack
