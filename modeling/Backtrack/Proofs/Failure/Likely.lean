import Backtrack.Failure.Likely

/-!
# Search for the likely cause

The likely cause of a failed choice is found by one pass over its attempts.  Of two
failures the pass keeps the further one, and the later of two that got equally far, so
it does not matter how the attempts are grouped: splicing the attempts of a nested choice
into those around it changes nothing (`likely_exhausted`).
-/

namespace Backtrack.Failure

/-- Keeping the further failure is associative. -/
theorem further_assoc (a b c : Failure) :
    further (some (further (some a) b)) c = further (some a) (further (some b) c) := by
  simp only [further, Int64.lt_iff_toInt_lt]
  grind

/-- The pass can be taken apart at any place. -/
theorem likelyAmong_append (best : Option Failure) (as bs : List Failure) :
    likelyAmong best (as ++ bs) = likelyAmong (likelyAmong best as) bs := by
  induction as generalizing best with
  | nil => rfl
  | cons a as ih => exact ih _

/-- What the pass finds is the best before it or the likely cause of an attempt. -/
theorem likelyAmong_mem (best : Option Failure) (as : List Failure) :
    likelyAmong best as = best ∨ ∃ a ∈ as, likelyAmong best as = some a.likely := by
  induction as generalizing best with
  | nil => exact .inl rfl
  | cons a as ih =>
      rw [likelyAmong]
      rcases ih (some (further best a.likely)) with h | ⟨b, hb, h⟩
      · have hf : some (further best a.likely) = best ∨ further best a.likely = a.likely := by
          unfold further
          split
          · split
            · exact .inl rfl
            · exact .inr rfl
          · exact .inr rfl
        rcases hf with hf | hf
        · exact .inl (h.trans hf)
        · exact .inr ⟨a, List.mem_cons_self, h.trans (congrArg some hf)⟩
      · exact .inr ⟨b, List.mem_cons_of_mem _ hb, h⟩

/-- The best before the pass is compared with what the pass finds without it. -/
theorem likelyAmong_some (best : Failure) (as : List Failure) :
    likelyAmong (some best) as =
      some (match likelyAmong none as with
        | none => best
        | some a => further (some best) a) := by
  induction as generalizing best with
  | nil => rfl
  | cons a as ih =>
      rw [likelyAmong, likelyAmong, ih, ih (further none a.likely)]
      cases likelyAmong none as with
      | none => rfl
      | some b => exact congrArg some (further_assoc best a.likely b)

/-- Among one or more attempts the pass finds the likely cause of one of them. -/
theorem exists_likelyAmong {as : List Failure} (h : as ≠ []) :
    ∃ a ∈ as, likelyAmong none as = some a.likely := by
  obtain ⟨a, as, rfl⟩ := List.exists_cons_of_ne_nil h
  rcases likelyAmong_mem (some a.likely) as with ha | ⟨b, hb, hb'⟩
  · exact ⟨a, List.mem_cons_self, ha⟩
  · exact ⟨b, List.mem_cons_of_mem _ hb, hb'⟩

/-- What the pass finds on its own is compared with the best before it. -/
theorem likelyAmong_of_none (best : Option Failure) {as : List Failure} {a : Failure}
    (h : likelyAmong none as = some a) : likelyAmong best as = some (further best a) := by
  cases best with
  | none => exact h
  | some b => rw [likelyAmong_some, h]

/-- A list in which the pass finds the likely cause of a failure may stand in its place. -/
theorem likelyAmong_flatMap (best : Option Failure) {f : Failure → List Failure}
    {es : List Failure} (h : ∀ e ∈ es, likelyAmong none (f e) = some e.likely) :
    likelyAmong best (es.flatMap f) = likelyAmong best es := by
  induction es generalizing best with
  | nil => rfl
  | cons e es ih =>
      rw [List.flatMap_cons, likelyAmong_append, likelyAmong_of_none best (h e List.mem_cons_self),
        likelyAmong]
      exact ih _ fun e' he' ↦ h e' (List.mem_cons_of_mem _ he')

/-- Among the attempts of a choice the pass finds the likely cause of the choice. -/
theorem likelyAmong_attempts (rest : Text) {as : List Failure} (h : as ≠ []) :
    likelyAmong none as = some (noAlternative rest as).likely := by
  obtain ⟨a, _, ha⟩ := exists_likelyAmong h
  rw [likely, ha, Option.getD_some]

/-- Splicing nested choices that have attempts does not change what the pass finds. -/
theorem likelyAmong_flatMap_attemptsAt (best : Option Failure) (rest : Text)
    {es : List Failure} (h : ∀ r, noAlternative r [] ∉ es) :
    likelyAmong best (es.flatMap (attemptsAt rest)) = likelyAmong best es := by
  refine likelyAmong_flatMap best fun e he ↦ ?_
  unfold attemptsAt
  split
  · next r as =>
      split
      · refine likelyAmong_attempts r ?_
        rintro rfl
        exact h r he
      · rfl
  · rfl

/-- The likely cause of an exhausted choice is the one among its alternatives' failures,
wherever the choice stood. -/
theorem likely_exhausted (rest : Text) {es : List Failure} (hne : es ≠ [])
    (h : ∀ r, noAlternative r [] ∉ es) :
    some (exhausted rest es).likely = likelyAmong none es := by
  obtain ⟨e, _, he⟩ := exists_likelyAmong hne
  rw [exhausted, likely, likelyAmong_flatMap_attemptsAt none rest h, he, Option.getD_some]

/-- Where a choice stood does not matter for its likely cause. -/
theorem likely_exhausted_congr (r s : Text) {es : List Failure} (hne : es ≠ [])
    (h : ∀ r, noAlternative r [] ∉ es) : (exhausted r es).likely = (exhausted s es).likely := by
  apply Option.some.inj
  rw [likely_exhausted r hne h, likely_exhausted s hne h]

/-- Neither does it matter how often one failure is repeated. -/
theorem likely_exhausted_replicate (rest : Text) (n : Nat) {e : Failure}
    (he : ∀ r, e ≠ noAlternative r []) :
    (exhausted rest (List.replicate (n + 1) e)).likely = e.likely := by
  have hne : List.replicate (n + 1) e ≠ [] := by
    rw [List.replicate_succ]
    exact List.cons_ne_nil _ _
  have hno : ∀ r, noAlternative r [] ∉ List.replicate (n + 1) e :=
    fun r hr ↦ he r (List.eq_of_mem_replicate hr).symm
  obtain ⟨e', he', hl⟩ := exists_likelyAmong hne
  obtain rfl := List.eq_of_mem_replicate he'
  rw [← likely_exhausted rest hne hno] at hl
  exact Option.some.inj hl

/-- The last failure of a choice is the likely cause if none before it got further. -/
theorem likely_exhausted_concat {rest : Text} {es : List Failure} {e : Failure}
    (hno : ∀ r, noAlternative r [] ∉ es ++ [e])
    (hlast : ∀ a ∈ es, ¬ e.likely.progress < a.likely.progress) :
    (exhausted rest (es ++ [e])).likely = e.likely := by
  apply Option.some.inj
  rw [likely_exhausted rest (by simp) hno, likelyAmong_append, likelyAmong, likelyAmong]
  by_cases hes : es = []
  · rw [hes]
    rfl
  · obtain ⟨a, ha, hbest⟩ := exists_likelyAmong hes
    rw [hbest, further, if_neg (hlast a ha)]

/-- The likely cause of a choice with attempts is that of one of them. -/
theorem exists_likely_noAlternative (r : Text) {as : List Failure} (hne : as ≠ []) :
    ∃ a ∈ as, (noAlternative r as).likely = a.likely := by
  obtain ⟨a, ha, hbest⟩ := exists_likelyAmong hne
  exact ⟨a, ha, by rw [likely, hbest, Option.getD_some]⟩

/-- A choice without attempts is its own likely cause. -/
theorem ne_noAlternative_nil_of_kind_likely {e : Failure} {r : Text}
    (h : e.likely.kind ≠ .noAlternative) : e ≠ noAlternative r [] := by
  rintro rfl
  exact h rfl

end Backtrack.Failure
