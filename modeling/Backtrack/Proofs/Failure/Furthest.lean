import Backtrack.Proofs.Failure.Shape

/-!
# The last of the furthest failures

The leaves of a failure are its nodes that nothing explains further: all but the choices
that have attempts.  The search for the likely cause picks a winner inside each choice and
then compares winners only.  All the same it finds what one pass over all leaves would, the
last of those that got furthest (`likely_last_furthest`), because a pass can be cut anywhere
and its pieces weigh as much as their winners.

How far a failure got is compared through a negated 64-bit size.  For texts that fit in
memory nothing is lost by that, and a failure without a place stays behind all others.
-/

namespace Backtrack.Failure

/-! ## Leaves -/

/-- Whether nothing explains the failure further: it is no choice, or one without
attempts. -/
def isLeaf : Failure → Bool
  | noAlternative _ (_ :: _) => false
  | _ => true

/-- The nodes of the failure that nothing explains further, from left to right. -/
def leaves (e : Failure) : List Failure := e.nodes.filter isLeaf

/-- Induction over a failure: what holds of leaves, and of choices with attempts when it
holds of these, holds of every failure. -/
@[elab_as_elim]
theorem induct {motive : Failure → Prop} (leaf : ∀ e, e.isLeaf = true → motive e)
    (choice : ∀ r as, as ≠ [] → (∀ a ∈ as, motive a) → motive (.noAlternative r as))
    (e : Failure) : motive e := by
  refine Failure.rec (motive_1 := motive) (motive_2 := fun es ↦ ∀ e ∈ es, motive e)
    (leaf _ rfl) ?_ (fun _ _ ↦ leaf _ rfl) (fun _ _ ↦ leaf _ rfl) (leaf _ rfl)
    (fun _ _ ↦ leaf _ rfl) (by simp) (fun _ _ he hes ↦ List.forall_mem_cons.mpr ⟨he, hes⟩) e
  intro r as has
  cases as with
  | nil => exact leaf _ rfl
  | cons a as => exact choice r _ (List.cons_ne_nil a as) has

theorem leaves_of_isLeaf {e : Failure} (h : e.isLeaf = true) : e.leaves = [e] := by
  cases e with
  | noAlternative r as =>
      cases as with
      | nil => rfl
      | cons a as => cases h
  | _ => rfl

theorem leaves_noAlternative (r : Text) {as : List Failure} (h : as ≠ []) :
    (noAlternative r as).leaves = as.flatMap leaves := by
  obtain ⟨a, as, rfl⟩ := List.exists_cons_of_ne_nil h
  rw [leaves, nodes, List.filter_cons_of_neg (by simp [isLeaf]), nodesAll_eq_flatMap,
    List.filter_flatMap]
  rfl

theorem isLeaf_of_mem_leaves {e l : Failure} (h : l ∈ e.leaves) : l.isLeaf = true :=
  (List.mem_filter.mp h).2

/-- A leaf is its own likely cause. -/
theorem likely_of_isLeaf {e : Failure} (h : e.isLeaf = true) : e.likely = e := by
  cases e with
  | noAlternative r as =>
      cases as with
      | nil => rfl
      | cons a as => cases h
  | _ => rfl

/-- One pass over all leaves finds the likely cause. -/
theorem likelyAmong_leaves (e : Failure) : likelyAmong none e.leaves = some e.likely := by
  induction e using induct with
  | leaf e he => rw [leaves_of_isLeaf he, likelyAmong, likelyAmong, further]
  | choice r as hne ih =>
      rw [leaves_noAlternative r hne, likelyAmong_flatMap none ih]
      exact likelyAmong_attempts r hne

/-! ## Progress -/

/-- The place of the failure, if it has one, is a text that fits in memory. -/
def Addressable (e : Failure) : Prop := ∀ r ∈ e.rest?, r.Addressable

instance (e : Failure) : Decidable e.Addressable :=
  inferInstanceAs (Decidable (∀ r ∈ e.rest?, r.Addressable))

/-- `a` got strictly less far than `b`: it has no place and `b` has one, or more bytes were
left at its place. -/
inductive Behind (a b : Failure) : Prop
  | unplaced {s : Text} : a.rest? = none → b.rest? = some s → Behind a b
  | placed {r s : Text} :
      a.rest? = some r → b.rest? = some s → s.byteSize < r.byteSize → Behind a b

/-- Nothing is behind a failure without a place. -/
theorem not_behind_of_none {a b : Failure} (hb : b.rest? = none) : ¬ a.Behind b := by
  rintro (⟨_, h⟩ | ⟨_, h, _⟩)
  · cases hb.symm.trans h
  · cases hb.symm.trans h

/-- Neither the cast of a size to 64 bits nor its negation overflows. -/
theorem toInt_neg_byteSize {t : Text} (h : t.Addressable) :
    (Int64.ofNat t.byteSize).toInt = t.byteSize ∧
      (-(Int64.ofNat t.byteSize)).toInt = -(t.byteSize : Int) := by
  have ht : t.byteSize ≤ 0x7fffffffffffffff := h
  have hcast : (Int64.ofNat t.byteSize).toInt = t.byteSize :=
    Int64.toInt_ofNat_of_lt (by omega)
  refine ⟨hcast, ?_⟩
  rw [Int64.toInt_neg, hcast]
  exact Int.bmod_eq_of_le (by omega) (by omega)

theorem progress_of_none {e : Failure} (h : e.rest? = none) :
    e.progress.toInt = -0x8000000000000000 := by
  rw [progress, h]
  exact Int64.toInt_minValue

theorem progress_of_some {e : Failure} {r : Text} (h : e.rest? = some r)
    (hr : r.Addressable) : e.progress.toInt = -(r.byteSize : Int) := by
  rw [progress, h]
  exact (toInt_neg_byteSize hr).2

/-- Progress in 64 bits orders failures by how far they got. -/
theorem progress_lt_iff {a b : Failure} (ha : a.Addressable) (hb : b.Addressable) :
    a.progress < b.progress ↔ a.Behind b := by
  rw [Int64.lt_iff_toInt_lt]
  cases hra : a.rest? with
  | none =>
      rw [progress_of_none hra]
      cases hrb : b.rest? with
      | none =>
          rw [progress_of_none hrb]
          exact iff_of_false (Int.lt_irrefl _) (not_behind_of_none hrb)
      | some s =>
          have hs : s.byteSize ≤ 0x7fffffffffffffff := hb s hrb
          rw [progress_of_some hrb (hb s hrb)]
          exact ⟨fun _ ↦ .unplaced hra hrb, fun _ ↦ by omega⟩
  | some r =>
      have hr : r.byteSize ≤ 0x7fffffffffffffff := ha r hra
      rw [progress_of_some hra (ha r hra)]
      cases hrb : b.rest? with
      | none =>
          rw [progress_of_none hrb]
          exact iff_of_false (by omega) (not_behind_of_none hrb)
      | some s =>
          rw [progress_of_some hrb (hb s hrb)]
          refine ⟨fun h ↦ .placed hra hrb (by omega), fun h ↦ ?_⟩
          cases h with
          | unplaced h => cases hra.symm.trans h
          | placed hr' hs' hlt =>
              cases hra.symm.trans hr'
              cases hrb.symm.trans hs'
              omega

/-- A failure did not get further than one that is at the end of its place. -/
theorem not_progress_lt {a b : Failure} {r s : Text} (ha : a.rest? = some r) (hb : b.rest? = some s)
    (hrs : r <:+ s) (hs : s.Addressable) : ¬ a.progress < b.progress := by
  have hle := Text.byteSize_le_of_suffix hrs
  have hr : r.Addressable := Nat.le_trans hle hs
  rw [progress_lt_iff (by simpa [Addressable, ha]) (by simpa [Addressable, hb])]
  rintro (⟨h, -⟩ | ⟨hr', hs', hlt⟩)
  · rw [ha] at h
    cases h
  · rw [ha] at hr'
    rw [hb] at hs'
    cases hr'
    cases hs'
    omega

/-! ## The last of the furthest -/

/-- Among leaves, the pass finds the last of those that got furthest: none before it got
further, and all after it got less far. -/
theorem exists_split_of_likelyAmong {ls : List Failure} {m : Failure}
    (hls : ∀ l ∈ ls, l.isLeaf = true) (h : likelyAmong none ls = some m) :
    ∃ before after, ls = before ++ m :: after ∧ (∀ l ∈ before, ¬ m.progress < l.progress) ∧
      ∀ l ∈ after, l.progress < m.progress := by
  induction ls generalizing m with
  | nil => cases h
  | cons l ls ih =>
      obtain ⟨hl, hls⟩ := List.forall_mem_cons.mp hls
      rw [likelyAmong, likely_of_isLeaf hl, further, likelyAmong_some] at h
      obtain rfl := Option.some.inj h
      by_cases hne : ls = []
      · subst hne
        exact ⟨[], [], rfl, by simp, by simp⟩
      · obtain ⟨_, _, hbest⟩ := exists_likelyAmong hne
        obtain ⟨before, after, rfl, hbefore, hafter⟩ := ih hls hbest
        rw [hbest]
        dsimp only [further]
        split
        · next hlt =>
            refine ⟨[], _, rfl, by simp, fun k hk ↦ ?_⟩
            rcases List.mem_append.mp hk with hk | hk
            · exact Std.lt_of_le_of_lt (Std.not_lt.mp (hbefore k hk)) hlt
            · rcases List.mem_cons.mp hk with rfl | hk
              · exact hlt
              · exact Std.lt_trans (hafter k hk) hlt
        · next hle =>
            exact ⟨l :: before, after, rfl, List.forall_mem_cons.mpr ⟨hle, hbefore⟩, hafter⟩

/-- The likely cause of a failure is the last of its leaves among those that got furthest:
a failure without a place is behind all that have one, and of two with places the one with
more bytes left is behind.  The 64-bit progress, whose cast and negation overflow for no text
that fits in memory, orders failures in exactly this way. -/
theorem likely_last_furthest {e : Failure} (h : ∀ l ∈ e.leaves, l.Addressable) :
    (∃ before after, e.leaves = before ++ e.likely :: after ∧
      (∀ l ∈ before, ¬ e.likely.Behind l) ∧ ∀ l ∈ after, l.Behind e.likely) ∧
    (∀ t : Text, t.Addressable → (Int64.ofNat t.byteSize).toInt = t.byteSize ∧
      (-(Int64.ofNat t.byteSize)).toInt = -(t.byteSize : Int)) ∧
    ∀ a b : Failure, a.Addressable → b.Addressable →
      (a.progress < b.progress ↔ a.Behind b) := by
  refine ⟨?_, fun _ ↦ toInt_neg_byteSize, fun _ _ ↦ progress_lt_iff⟩
  obtain ⟨before, after, hsplit, hbefore, hafter⟩ :=
    exists_split_of_likelyAmong (fun _ ↦ isLeaf_of_mem_leaves) (likelyAmong_leaves e)
  have hbest : e.likely.Addressable := h _ (by simp [hsplit])
  refine ⟨before, after, hsplit, fun l hl hb ↦ ?_, fun l hl ↦ ?_⟩
  · have hl' : l.Addressable := h l (by simp [hsplit, hl])
    exact hbefore l hl ((progress_lt_iff hbest hl').mpr hb)
  · have hl' : l.Addressable := h l (by simp [hsplit, hl])
    exact (progress_lt_iff hl' hbest).mp (hafter l hl)

/-- Three leaves got equally far, one of them an empty choice two levels down, and one that
has no place stands between them: the likely cause is the last of the three. -/
theorem nested_tie_last_furthest :
    let rest : Text := ['é', 'b']
    let tied : Failure := .noAlternative ['b'] []
    let e : Failure :=
      .noAlternative rest
        [.missingLiteral ['x'] ['b'],
          .noAlternative rest [.never, .notNumber [] ['b'], .noAlternative ['b'] [tied]],
          .missingLiteral ['y'] ['é', 'b']]
    e.leaves = [.missingLiteral ['x'] ['b'], .never, .notNumber [] ['b'], tied,
        .missingLiteral ['y'] ['é', 'b']] ∧
      (∀ l ∈ e.leaves, l.Addressable) ∧ e.likely = tied ∧
      (∃ before after, e.leaves = before ++ e.likely :: after ∧
        (∀ l ∈ before, ¬ e.likely.Behind l) ∧ ∀ l ∈ after, l.Behind e.likely) := by
  intro rest tied e
  have haddr : ∀ l ∈ e.leaves, l.Addressable := by decide
  exact ⟨rfl, haddr, by decide, (likely_last_furthest haddr).1⟩

end Backtrack.Failure
