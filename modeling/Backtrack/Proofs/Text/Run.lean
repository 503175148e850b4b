import Backtrack.Text.Basic

/-!
# Longest runs

A run at the start of a text is the longest one of accepted characters if every other one is a
beginning of it.  Each text has exactly one, it ends where a character is refused or the text
ends, and taking characters while they are accepted finds it.
-/

namespace Backtrack.Text

/-- The text starts with the run, whose characters are all accepted, and with no longer one. -/
structure IsLongestRun (accepts : Char → Bool) (t run : Text) : Prop where
  starts : run <+: t
  accepted (x : Char) : x ∈ run → accepts x = true
  longest (s : Text) : s <+: t → (∀ x ∈ s, accepts x = true) → s <+: run

variable {accepts : Char → Bool} {t run : Text}

theorem IsLongestRun.unique {s : Text} (h : IsLongestRun accepts t run)
    (hs : IsLongestRun accepts t s) : run = s := by
  have hle := hs.longest run h.starts h.accepted
  have hge := h.longest s hs.starts hs.accepted
  exact hle.eq_of_length_le hge.length_le

/-- Accepted characters in front of what does not start with one are the longest run. -/
theorem isLongestRun_append {rest : Text} (hrun : ∀ x ∈ run, accepts x = true)
    (hrest : ∀ x, rest.head? = some x → accepts x = false) :
    IsLongestRun accepts (run ++ rest) run := by
  refine ⟨List.prefix_append run rest, hrun, fun s hs haccepts ↦ ?_⟩
  rcases List.prefix_or_prefix_of_prefix hs (List.prefix_append run rest) with h | ⟨u, rfl⟩
  · exact h
  · -- A longer one would go on with the first character that is left.
    cases u with
    | nil => simp
    | cons x u =>
        obtain ⟨v, hv⟩ := hs
        rw [List.append_assoc] at hv
        have hhead : rest.head? = some x := by
          rw [← List.append_cancel_left hv]
          rfl
        have htrue := haccepts x (by simp)
        rw [hrest x hhead] at htrue
        cases htrue

/-- A beginning of a text is its longest run just if it is accepted and what comes next is not. -/
theorem isLongestRun_append_iff {rest : Text} : IsLongestRun accepts (run ++ rest) run ↔
    (∀ x ∈ run, accepts x = true) ∧ ∀ x, rest.head? = some x → accepts x = false := by
  refine ⟨fun h ↦ ⟨h.accepted, fun x hx ↦ ?_⟩, fun h ↦ isLongestRun_append h.1 h.2⟩
  obtain ⟨u, rfl⟩ := List.head?_eq_some_iff.mp hx
  cases haccepts : accepts x with
  | false => rfl
  | true =>
      have hlonger : run ++ [x] <+: run := by
        refine h.longest _ ⟨u, by simp⟩ fun y hy ↦ ?_
        rcases List.mem_append.mp hy with hy | hy
        · exact h.accepted y hy
        · obtain rfl := List.mem_singleton.mp hy
          exact haccepts
      have hlength := hlonger.length_le
      rw [List.length_append] at hlength
      exact absurd hlength (Nat.not_succ_le_self _)

theorem head?_dropWhile_refused {x : Char} (h : (t.dropWhile accepts).head? = some x) :
    accepts x = false := by
  have hnot := List.head?_dropWhile_not accepts t
  rw [h] at hnot
  exact hnot

theorem isLongestRun_takeWhile (accepts : Char → Bool) (t : Text) :
    IsLongestRun accepts t (t.takeWhile accepts) := by
  have hrun : ∀ x ∈ t.takeWhile accepts, accepts x = true :=
    List.all_eq_true.mp List.all_takeWhile
  have hrest : ∀ x, (t.dropWhile accepts).head? = some x → accepts x = false :=
    fun x hx ↦ head?_dropWhile_refused hx
  have h := isLongestRun_append hrun hrest
  rwa [List.takeWhile_append_dropWhile] at h

theorem isLongestRun_iff : IsLongestRun accepts t run ↔ t.takeWhile accepts = run := by
  refine ⟨fun h ↦ (isLongestRun_takeWhile accepts t).unique h, ?_⟩
  rintro rfl
  exact isLongestRun_takeWhile accepts t

end Backtrack.Text
