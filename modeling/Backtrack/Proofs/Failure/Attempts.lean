import Backtrack.Proofs.Failure.Shape
import Mathlib.Data.List.Forall2

/-!
# Attempts and the failures they stand for

The attempts of an exhausted choice are made of blocks, one for the failure of each
alternative and in this order (`eq_exhausted_iff`).  A failure is a block by itself, unless it
is a choice with as many bytes left as the outer one: then the block is its own attempts.

This is meant to merge choices that failed at one place, and of those nothing is lost as long
as they have attempts.  The number of bytes tells two places in one text apart, but not one
text from another.  So the blocks are those that the places ask for if no failure is a choice
over another text of the same size or one without attempts, and in no other case
(`retainsAll_iff`): where a failure is taken for what it is not, fewer nodes are left than
there should be, and no other block makes up for them.
-/

namespace Backtrack.Failure

variable {rest : Text} {e : Failure} {es attempts block : List Failure}

/-! ## Blocks by size -/

/-- The block that the failure of an alternative adds to a choice at `rest`. -/
inductive Adds (rest : Text) : Failure → List Failure → Prop
  | attempts {r : Text} {as : List Failure} :
      r.byteSize = rest.byteSize → Adds rest (.noAlternative r as) as
  | itself {e : Failure} :
      (∀ r as, e = .noAlternative r as → r.byteSize ≠ rest.byteSize) → Adds rest e [e]

theorem adds_iff : Adds rest e block ↔ attemptsAt rest e = block := by
  constructor
  · intro h
    cases h with
    | attempts hr => rw [attemptsAt, if_pos hr]
    | itself he =>
        cases e with
        | noAlternative r as => rw [attemptsAt, if_neg (he r as rfl)]
        | _ => rfl
  · rintro rfl
    cases e with
    | noAlternative r as =>
        rw [attemptsAt]
        split
        · next hr => exact .attempts hr
        · next hr =>
            refine .itself ?_
            rintro _ _ ⟨⟩
            exact hr
    | _ =>
        refine .itself ?_
        rintro _ _ ⟨⟩

theorem forall₂_adds_iff {blocks : List (List Failure)} :
    List.Forall₂ (Adds rest) es blocks ↔ es.map (attemptsAt rest) = blocks := by
  constructor
  · intro h
    induction h with
    | nil => rfl
    | cons h _ ih => rw [List.map_cons, adds_iff.mp h, ih]
  · rintro rfl
    rw [List.forall₂_map_right_iff, List.forall₂_same]
    exact fun e _ ↦ adds_iff.mpr rfl

/-- An exhausted choice keeps the blocks of its alternatives' failures in order. -/
theorem eq_exhausted_iff :
    e = exhausted rest es ↔
      ∃ blocks, List.Forall₂ (Adds rest) es blocks ∧ e = .noAlternative rest blocks.flatten := by
  simp only [forall₂_adds_iff, exists_eq_left', exhausted, List.flatMap_def]

/-! ## Blocks by place -/

/-- The block that an alternative's failure is by its place: the attempts of a choice that
failed at `rest`, and every other failure as it is. -/
inductive Keeps (rest : Text) : Failure → List Failure → Prop
  | attempts {as : List Failure} : Keeps rest (.noAlternative rest as) as
  | itself {e : Failure} : (∀ as, e ≠ .noAlternative rest as) → Keeps rest e [e]

/-- The attempts are made of one block for each failure, by its place, and none is empty. -/
def RetainsAll (rest : Text) (es attempts : List Failure) : Prop :=
  ∃ blocks, List.Forall₂ (Keeps rest) es blocks ∧ [] ∉ blocks ∧ attempts = blocks.flatten

/-- A choice with as many bytes left is a choice at `rest`, and has attempts. -/
def Retained (rest : Text) (e : Failure) : Prop :=
  ∀ r as, e = .noAlternative r as → r.byteSize = rest.byteSize → r = rest ∧ as ≠ []

theorem RetainsAll.length_le (h : RetainsAll rest es attempts) : es.length ≤ attempts.length := by
  obtain ⟨blocks, hblocks, hne, rfl⟩ := h
  induction hblocks with
  | nil => exact Nat.zero_le _
  | @cons e block es blocks _ _ ih =>
      rw [List.mem_cons, not_or] at hne
      have hblock := List.length_pos_of_ne_nil (Ne.symm hne.1)
      have htail := ih hne.2
      rw [List.flatten_cons, List.length_append, List.length_cons]
      omega

/-- The block of a failure that is retained is the one that its place asks for. -/
theorem Retained.keeps (h : Retained rest e) :
    Keeps rest e (attemptsAt rest e) ∧ attemptsAt rest e ≠ [] := by
  cases e with
  | noAlternative r as =>
      rw [attemptsAt]
      split
      · next hr =>
          obtain ⟨rfl, has⟩ := h r as rfl hr
          exact ⟨.attempts, has⟩
      · next hr =>
          refine ⟨.itself ?_, List.cons_ne_nil _ _⟩
          rintro _ ⟨⟩
          exact hr rfl
  | _ =>
      refine ⟨.itself ?_, List.cons_ne_nil _ _⟩
      rintro _ ⟨⟩

/-- A block by place has no fewer nodes than the block by size, and has more of them unless the
failure is retained. -/
theorem Keeps.nodes_le (h : Keeps rest e block) (hne : block ≠ []) :
    (nodesAll (attemptsAt rest e)).length ≤ (nodesAll block).length ∧
      ((nodesAll (attemptsAt rest e)).length = (nodesAll block).length → Retained rest e) := by
  cases h with
  | @attempts as =>
      rw [attemptsAt, if_pos rfl]
      refine ⟨Nat.le_refl _, fun _ ↦ ?_⟩
      rintro _ _ ⟨⟩ _
      exact ⟨rfl, hne⟩
  | itself he =>
      by_cases hsize : ∃ r as, e = .noAlternative r as ∧ r.byteSize = rest.byteSize
      · -- The choice is over another text, and what is missing is the choice itself.
        obtain ⟨r, as, rfl, hr⟩ := hsize
        have hlt : (nodesAll as).length < (nodesAll [noAlternative r as]).length := by
          simp [nodesAll, nodes]
        rw [attemptsAt, if_pos hr]
        exact ⟨Nat.le_of_lt hlt, fun heq ↦ absurd heq (Nat.ne_of_lt hlt)⟩
      · have hadds : Adds rest e [e] := .itself fun r as h hr ↦ hsize ⟨r, as, h, hr⟩
        rw [adds_iff.mp hadds]
        exact ⟨Nat.le_refl _, fun _ r as h hr ↦ absurd ⟨r, as, h, hr⟩ hsize⟩

theorem nodesAll_append (as bs : List Failure) :
    nodesAll (as ++ bs) = nodesAll as ++ nodesAll bs := by
  simp only [nodesAll_eq_flatMap, List.flatMap_append]

/-- All blocks by place together have no fewer nodes than those by size, and have more of them
unless all failures are retained. -/
theorem nodes_flatMap_le {blocks : List (List Failure)} (h : List.Forall₂ (Keeps rest) es blocks)
    (hne : [] ∉ blocks) :
    (nodesAll (es.flatMap (attemptsAt rest))).length ≤ (nodesAll blocks.flatten).length ∧
      ((nodesAll (es.flatMap (attemptsAt rest))).length = (nodesAll blocks.flatten).length →
        ∀ e ∈ es, Retained rest e) := by
  induction h with
  | nil => simp
  | @cons e block es blocks hkeeps _ ih =>
      rw [List.mem_cons, not_or] at hne
      obtain ⟨hle, hretained⟩ := hkeeps.nodes_le (Ne.symm hne.1)
      obtain ⟨hles, hretaineds⟩ := ih hne.2
      rw [List.flatMap_cons, List.flatten_cons, nodesAll_append, nodesAll_append,
        List.length_append, List.length_append, List.forall_mem_cons]
      exact ⟨by omega, fun heq ↦ ⟨hretained (by omega), hretaineds (by omega)⟩⟩

/-- The attempts of an exhausted choice retain the failures of its alternatives exactly if each
of them is retained. -/
theorem retainsAll_iff :
    RetainsAll rest es (es.flatMap (attemptsAt rest)) ↔ ∀ e ∈ es, Retained rest e := by
  constructor
  · rintro ⟨blocks, hblocks, hne, heq⟩
    exact (nodes_flatMap_le hblocks hne).2 (by rw [heq])
  · intro h
    refine ⟨es.map (attemptsAt rest), ?_, ?_, List.flatMap_def⟩
    · rw [List.forall₂_map_right_iff, List.forall₂_same]
      exact fun e he ↦ (h e he).keeps.1
    · intro hnil
      obtain ⟨e, he, hnil⟩ := List.mem_map.mp hnil
      exact (h e he).keeps.2 hnil

/-- Where places descend, a choice with as many bytes left is at the same place. -/
theorem Descends.retained (h : Descends rest e) : Retained rest e := by
  rintro r as rfl hr
  cases h with
  | leaf hk => exact absurd rfl hk
  | noAlternative hsuffix hne => exact ⟨Text.eq_of_suffix hsuffix hr, hne⟩

end Backtrack.Failure
