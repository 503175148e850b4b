import Backtrack.Proofs.Failure.Likely
import Backtrack.Proofs.Text.Boundary

/-!
# The shape of a failure

A failure is a tree: the attempts of an exhausted choice are its children.  It descends
from a text when every place recorded in it lies at or after the place around it, every
choice has attempts, and a choice directly inside another one stood strictly further on.
The last two say that choices at one place are always merged into one.  An exhausted
choice keeps the shape (`descends_exhausted`), although it splices one level only and
compares nothing but sizes: at its own place, a nested choice is merged already.
-/

namespace Backtrack

namespace Failure

/-! ## Nodes -/

mutual

/-- The failure and, at any depth, its attempts. -/
def nodes : Failure → List Failure
  | noAlternative r as => noAlternative r as :: nodesAll as
  | never => [never]
  | notNumber d r => [notNumber d r]
  | missingLiteral x r => [missingLiteral x r]
  | endOfInput => [endOfInput]
  | rejected m r => [rejected m r]

/-- The nodes of failures, one after the other. -/
def nodesAll : List Failure → List Failure
  | [] => []
  | e :: es => nodes e ++ nodesAll es

end

theorem nodesAll_eq_flatMap (es : List Failure) : nodesAll es = es.flatMap nodes := by
  induction es with
  | nil => rfl
  | cons e es ih => rw [nodesAll, ih, List.flatMap_cons]

/-- Below an exhausted choice there is nothing but what the alternatives failed with. -/
theorem mem_nodes_exhausted {rest : Text} {es : List Failure} {n : Failure}
    (h : n ∈ (exhausted rest es).nodes) :
    (∃ as, n = noAlternative rest as) ∨ ∃ e ∈ es, n ∈ e.nodes := by
  rw [exhausted, nodes, nodesAll_eq_flatMap, List.mem_cons, List.mem_flatMap] at h
  rcases h with h | ⟨a, ha, hn⟩
  · exact .inl ⟨_, h⟩
  · obtain ⟨e, he, ha⟩ := List.mem_flatMap.mp ha
    refine .inr ⟨e, he, ?_⟩
    unfold attemptsAt at ha
    split at ha
    · next r as =>
        split at ha
        · rw [nodes, nodesAll_eq_flatMap]
          exact List.mem_cons_of_mem _ (List.mem_flatMap.mpr ⟨a, ha, hn⟩)
        · obtain rfl := List.mem_singleton.mp ha
          exact hn
    · obtain rfl := List.mem_singleton.mp ha
      exact hn

/-! ## Descent -/

/-- Every place in the failure lies at or after the one around it, which is `t` outside;
choices have attempts, and choices directly inside choices stood strictly further on. -/
inductive Descends : Text → Failure → Prop
  | leaf {t : Text} {e : Failure} :
      e.kind ≠ .noAlternative → (∀ r, e.rest? = some r → r <:+ t) → Descends t e
  | noAlternative {t r : Text} {as : List Failure} :
      r <:+ t → as ≠ [] → (∀ a ∈ as, Descends r a) →
        (∀ s bs, .noAlternative s bs ∈ as → s.byteSize < r.byteSize) →
          Descends t (.noAlternative r as)

theorem Descends.mono {s t : Text} {e : Failure} (h : Descends s e) (hst : s <:+ t) :
    Descends t e := by
  cases h with
  | leaf hk hr => exact .leaf hk fun r h ↦ (hr r h).trans hst
  | noAlternative hr hne has hlt => exact .noAlternative (hr.trans hst) hne has hlt

theorem Descends.rest_suffix {t r : Text} {e : Failure} (h : Descends t e)
    (hr : e.rest? = some r) : r <:+ t := by
  cases h with
  | leaf _ h => exact h r hr
  | noAlternative h =>
      cases hr
      exact h

theorem Descends.ne_noAlternative_nil {t r : Text} {e : Failure} (h : Descends t e) :
    e ≠ .noAlternative r [] := by
  rintro rfl
  cases h with
  | leaf hk => exact hk rfl
  | noAlternative _ hne => exact hne rfl

/-- Every node descends from where the whole failure does. -/
theorem Descends.of_mem_nodes {t : Text} {e n : Failure} (h : Descends t e)
    (hn : n ∈ e.nodes) : Descends t n := by
  induction h with
  | @leaf t e hk hr =>
      have he : e.nodes = [e] := by
        cases e with
        | noAlternative => exact absurd rfl hk
        | _ => rfl
      rw [he, List.mem_singleton] at hn
      subst hn
      exact .leaf hk hr
  | @noAlternative t r as hr hne has hlt ih =>
      rw [nodes, nodesAll_eq_flatMap, List.mem_cons, List.mem_flatMap] at hn
      rcases hn with rfl | ⟨a, ha, hn⟩
      · exact .noAlternative hr hne has hlt
      · exact (ih a ha hn).mono hr

/-- The likely cause of a failure that descends is no choice. -/
theorem Descends.kind_likely {t : Text} {e : Failure} (h : Descends t e) :
    e.likely.kind ≠ .noAlternative := by
  induction h with
  | @leaf t e hk hr =>
      cases e with
      | noAlternative => exact absurd rfl hk
      | _ => exact hk
  | @noAlternative t r as hr hne has hlt ih =>
      obtain ⟨a, ha, hl⟩ := exists_likelyAmong hne
      rw [likely, hl, Option.getD_some]
      exact ih a ha

/-! ## Exhausted choices -/

/-- What a failure that descends from `t` adds to a choice at `t`: one or more attempts
that descend from `t`, among them only choices that stood strictly further on. -/
theorem Descends.attemptsAt {t : Text} {e : Failure} (h : Descends t e) :
    attemptsAt t e ≠ [] ∧ (∀ a ∈ attemptsAt t e, Descends t a) ∧
      ∀ s bs, .noAlternative s bs ∈ attemptsAt t e → s.byteSize < t.byteSize := by
  cases h with
  | leaf hk hr =>
      have he : Failure.attemptsAt t e = [e] := by
        cases e with
        | noAlternative => exact absurd rfl hk
        | _ => rfl
      rw [he]
      refine ⟨List.cons_ne_nil _ _, ?_, ?_⟩
      · intro a ha
        obtain rfl := List.mem_singleton.mp ha
        exact .leaf hk hr
      · intro s bs hs
        obtain rfl := List.mem_singleton.mp hs
        exact absurd rfl hk
  | @noAlternative _ r as hr hne has hlt =>
      rw [Failure.attemptsAt]
      split
      · next hs =>
          obtain rfl := Text.eq_of_suffix hr hs
          exact ⟨hne, has, hlt⟩
      · next hs =>
          refine ⟨List.cons_ne_nil _ _, ?_, ?_⟩
          · intro a ha
            obtain rfl := List.mem_singleton.mp ha
            exact .noAlternative hr hne has hlt
          · intro s bs hb
            cases List.mem_singleton.mp hb
            exact Nat.lt_of_le_of_ne (Text.byteSize_le_of_suffix hr) hs

/-- A choice whose alternatives failed with failures that descend from its place fails
with a failure that does so too. -/
theorem descends_exhausted {t : Text} {es : List Failure} (hne : es ≠ [])
    (h : ∀ e ∈ es, Descends t e) : Descends t (exhausted t es) := by
  refine .noAlternative (List.suffix_refl t) ?_ ?_ ?_
  · obtain ⟨e, es, rfl⟩ := List.exists_cons_of_ne_nil hne
    rw [List.flatMap_cons]
    exact List.append_ne_nil_of_left_ne_nil (h e List.mem_cons_self).attemptsAt.1 _
  · intro a ha
    obtain ⟨e, he, ha⟩ := List.mem_flatMap.mp ha
    exact (h e he).attemptsAt.2.1 a ha
  · intro s bs hs
    obtain ⟨e, he, hs⟩ := List.mem_flatMap.mp hs
    exact (h e he).attemptsAt.2.2 s bs hs

end Failure

end Backtrack
