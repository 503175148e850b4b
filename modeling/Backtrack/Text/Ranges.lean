/-!
# Classes of characters as ranges

A class of characters is given by the ranges of their code points, both ends
included, in ascending order.  Looking a code point up stops at the first range that
starts above it, which misses nothing (`covers_iff`).
-/

namespace Backtrack.Text

/-- Ranges of code points, both ends included. -/
abbrev Ranges := List (Nat × Nat)

namespace Ranges

/-- Whether a code point lies in one of the ranges, which are in ascending order. -/
def covers : Ranges → Nat → Bool
  | [], _ => false
  | (low, high) :: rs, n => if n < low then false else if n ≤ high then true else covers rs n

/-- One of the ranges holds the code point. -/
def Holds (rs : Ranges) (n : Nat) : Prop := ∃ r ∈ rs, r.1 ≤ n ∧ n ≤ r.2

/-- Whether the ranges start at `n` or later, are not empty, and each ends below the
start of the next one. -/
def ascendsFrom : Nat → Ranges → Bool
  | _, [] => true
  | n, (low, high) :: rs => n ≤ low && low ≤ high && ascendsFrom (high + 1) rs

/-- Ascending ranges cover nothing below their start. -/
theorem le_of_ascendsFrom {m n : Nat} {rs : Ranges} (h : ascendsFrom m rs = true)
    {r : Nat × Nat} (hr : r ∈ rs) (hn : r.1 ≤ n) : m ≤ n := by
  induction rs generalizing m with
  | nil => cases hr
  | cons s rs ih =>
      simp only [ascendsFrom, Bool.and_eq_true, decide_eq_true_eq] at h
      rcases List.mem_cons.1 hr with rfl | hr
      · omega
      · have := ih h.2 hr
        omega

/-- A code point is covered exactly if one of the ranges holds it. -/
theorem covers_iff {m : Nat} {rs : Ranges} (h : ascendsFrom m rs = true) (n : Nat) :
    covers rs n = true ↔ Holds rs n := by
  induction rs generalizing m with
  | nil => simp [covers, Holds]
  | cons r rs ih =>
      simp only [ascendsFrom, Bool.and_eq_true, decide_eq_true_eq] at h
      have hcons : Holds (r :: rs) n ↔ (r.1 ≤ n ∧ n ≤ r.2) ∨ Holds rs n := by
        simp [Holds]
      rw [hcons, ← ih h.2, covers]
      split
      · next hn =>
          have : covers rs n ≠ true := fun hc ↦ by
            obtain ⟨s, hs, h1, _⟩ := (ih h.2).1 hc
            have := le_of_ascendsFrom h.2 hs h1
            omega
          simp only [Bool.false_eq_true, this, or_false, false_iff]
          omega
      · split
        · simp only [true_iff]
          omega
        · constructor
          · exact Or.inr
          · rintro (h1 | h1)
            · omega
            · exact h1

end Ranges

end Backtrack.Text
