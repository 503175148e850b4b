import Backtrack.Proofs.Parser.Bracketing
import Backtrack.Proofs.Parser.Forward

/-!
# Truth values

A truth value has two spellings, and they are tried two at a time.  Since the values only say
which pair a spelling belongs to, it comes to the same to try all four at once
(`Parser.boolean_agrees`).  No spelling is the beginning of another one, so at most one of them
comes next, and the order of the spellings matters to the failure alone.

Both outcomes are given on every input by one iff each (`succeeds_boolean`, `fails_boolean`).
-/

namespace Backtrack.Parser

variable {α β : Type} {c d : Cursor}

/-- Transforming the value of a choice of two is transforming that of each. -/
theorem map_orElse (p q : Parser α) (f : α → β) :
    (p.orElse q).map f = (p.map f).orElse (q.map f) := by
  ext1
  funext c
  rw [parse_map, parse_orElse, parse_orElse, parse_map, parse_map]
  rcases p.parse c with _ | ⟨e | a, m, es⟩
  · rfl
  · rcases q.parse c with _ | ⟨_ | b, m', fs⟩ <;> rfl
  · rfl

/-! ## Tables of spellings -/

/-- The parser of one spelling of a value. -/
def spelled (s : α × Text) : Parser α := (literal s.2).map fun _ ↦ s.1

theorem succeeds_spelled (hc : c.WellFormed) {s : α × Text} {a : α} :
    (spelled s).Succeeds c a d ↔ a = s.1 ∧ c.Consumes s.2 d := by
  rw [spelled, succeeds_map]
  constructor
  · rintro ⟨u, hu, rfl⟩
    exact ⟨rfl, consumes_literal hc hu⟩
  · rintro ⟨rfl, hd⟩
    have hstarts : s.2 <+: c.rest := ⟨d.rest, hd.rest.symm⟩
    exact ⟨(), succeeds_literal.mpr
      ⟨List.isPrefixOf_iff_prefix.mpr hstarts, (hc.consumes_iff hstarts).mp hd⟩, rfl⟩

theorem fails_spelled {s : α × Text} {e : Failure} :
    (spelled s).Fails c e d ↔ ¬ s.2 <+: c.rest ∧ e = .missingLiteral s.2 c.rest ∧ d = c := by
  rw [spelled, fails_map, fails_literal, ← Bool.not_eq_true, List.isPrefixOf_iff_prefix]

/-- Where at most one spelling of a table comes next, it does not matter when it is tried. -/
theorem firstSucceeds_spelled (hc : c.WellFormed) {table : List (α × Text)} {a : α}
    (hone : ∀ s ∈ table, ∀ s' ∈ table, s.2 <+: c.rest → s'.2 <+: c.rest → s = s') :
    FirstSucceeds c (table.map spelled) a d ↔ ∃ x, (a, x) ∈ table ∧ c.Consumes x d := by
  induction table with
  | nil => simp [not_firstSucceeds_nil]
  | cons s table ih =>
      have htable := ih fun s hs s' hs' ↦
        hone s (List.mem_cons_of_mem _ hs) s' (List.mem_cons_of_mem _ hs')
      rw [List.map_cons, firstSucceeds_cons, htable, succeeds_spelled hc]
      constructor
      · rintro (⟨rfl, hd⟩ | ⟨_, x, hx, hd⟩)
        · exact ⟨s.2, List.mem_cons_self, hd⟩
        · exact ⟨x, List.mem_cons_of_mem _ hx, hd⟩
      · rintro ⟨x, hx, hd⟩
        by_cases hs : s.2 <+: c.rest
        · obtain rfl := hone s List.mem_cons_self (a, x) hx hs ⟨d.rest, hd.rest.symm⟩
          exact .inl ⟨rfl, hd⟩
        · rcases List.mem_cons.mp hx with rfl | hx
          · exact absurd ⟨d.rest, hd.rest.symm⟩ hs
          · exact .inr ⟨⟨_, _, fails_spelled.mpr ⟨hs, rfl, rfl⟩⟩, x, hx, hd⟩

theorem allFail_spelled {table : List (α × Text)} {es : List Failure} :
    AllFail c (table.map spelled) es ↔
      (∀ s ∈ table, ¬ s.2 <+: c.rest) ∧
        es = table.map fun s ↦ .missingLiteral s.2 c.rest := by
  induction table generalizing es with
  | nil => simp
  | cons s table ih =>
      rw [List.map_cons, AllFail, List.forall₂_cons_left_iff, List.forall_mem_cons, List.map_cons]
      simp only [ih, fails_spelled]
      constructor
      · rintro ⟨e, es, ⟨_, hs, rfl, -⟩, ⟨htable, rfl⟩, rfl⟩
        exact ⟨⟨hs, htable⟩, rfl⟩
      · rintro ⟨⟨hs, htable⟩, rfl⟩
        exact ⟨_, _, ⟨c, hs, rfl, rfl⟩, ⟨htable, rfl⟩, rfl⟩

/-! ## The spellings of truth values -/

/-- The spellings of the truth values, in the order in which they are tried. -/
def truthSpellings : List (Bool × Text) :=
  [(true, "true".toList), (true, "True".toList), (false, "false".toList), (false, "False".toList)]

/-- Trying the spellings two at a time agrees with trying them all at once. -/
theorem boolean_agrees :
    boolean.Agrees (choice (spelled (true, "true".toList)) (truthSpellings.tail.map spelled)) := by
  let tree : Bracketing Bool :=
    .either (.either (.one (spelled (true, "true".toList))) (.one (spelled (true, "True".toList))))
      (.either (.one (spelled (false, "false".toList))) (.one (spelled (false, "False".toList))))
  have htree : boolean = tree.toParser := by
    rw [boolean, map_orElse, map_orElse]
    rfl
  rw [htree]
  exact Bracketing.either_agrees_choice rfl

theorem truthSpellings_ne_nil : ∀ s ∈ truthSpellings, s.2 ≠ [] := by
  decide

/-- No spelling is the beginning of another one. -/
theorem truthSpellings_incomparable :
    ∀ s ∈ truthSpellings, ∀ s' ∈ truthSpellings, s.2 <+: s'.2 → s = s' := by
  decide

theorem truthSpellings_one {t : Text} : ∀ s ∈ truthSpellings, ∀ s' ∈ truthSpellings,
    s.2 <+: t → s'.2 <+: t → s = s' := by
  intro s hs s' hs' h h'
  rcases List.prefix_or_prefix_of_prefix h h' with hle | hle
  · exact truthSpellings_incomparable s hs s' hs' hle
  · exact (truthSpellings_incomparable s' hs' s hs hle).symm

/-- A truth value is read exactly if one of its spellings comes next, and just this spelling is
consumed. -/
theorem succeeds_boolean (hc : c.WellFormed) {b : Bool} :
    boolean.Succeeds c b d ↔ ∃ x, (b, x) ∈ truthSpellings ∧ c.Consumes x d := by
  rw [((agrees_iff.mp boolean_agrees c).1 b d), succeeds_choice]
  exact firstSucceeds_spelled hc truthSpellings_one

/-- Where no spelling comes next, the failure has one attempt for each of them, in order. -/
theorem fails_boolean {e : Failure} :
    boolean.Fails c e d ↔ (∀ s ∈ truthSpellings, ¬ s.2 <+: c.rest) ∧
      e = .noAlternative c.rest (truthSpellings.map fun s ↦ .missingLiteral s.2 c.rest) ∧
        d = c := by
  rw [((agrees_iff.mp boolean_agrees c).2 e d), fails_choice, ← and_assoc]
  refine and_congr_left fun _ ↦ ⟨?_, ?_⟩
  · rintro ⟨es, hes, rfl⟩
    obtain ⟨hnone, rfl⟩ := (@allFail_spelled _ c truthSpellings es).mp hes
    exact ⟨hnone, rfl⟩
  · rintro ⟨hnone, rfl⟩
    exact ⟨_, (@allFail_spelled _ c truthSpellings _).mpr ⟨hnone, rfl⟩, rfl⟩

/-- At a boundary, a spelling that comes next gives its value and is consumed, and nothing else
is.  Where none comes next, the cursor stays, and the choice that failed there has one attempt
for each spelling, in order and on the same text.  So it does not show that the four literals are
tried two at a time: from every cursor they have the same value or the same failure as in one
choice, and leave the same cursor. -/
theorem boolean_reads_spelling (hc : c.WellFormed) :
    (∀ b x, (b, x) ∈ truthSpellings → x <+: c.rest →
      ∃ d, boolean.Succeeds c b d ∧ c.Consumes x d) ∧
    ((∀ s ∈ truthSpellings, ¬ s.2 <+: c.rest) →
      boolean.Fails c (.noAlternative c.rest
        [.missingLiteral "true".toList c.rest, .missingLiteral "True".toList c.rest,
          .missingLiteral "false".toList c.rest, .missingLiteral "False".toList c.rest]) c) ∧
    boolean.Agrees (choice ((literal "true".toList).map fun _ ↦ true)
      [(literal "True".toList).map fun _ ↦ true, (literal "false".toList).map fun _ ↦ false,
        (literal "False".toList).map fun _ ↦ false]) := by
  refine ⟨fun b x hx hstarts ↦ ?_, fun hnone ↦ fails_boolean.mpr ⟨hnone, rfl, rfl⟩,
    boolean_agrees⟩
  have hd := (hc.consumes_iff hstarts).mpr rfl
  exact ⟨_, (succeeds_boolean hc).mpr ⟨x, hx, hd⟩, hd⟩

/-- After an accented letter, a spelling is read in front of more letters.  A text that shares
its beginning with two spellings, and the end of a text, are refused with four attempts. -/
theorem boolean_reads_spelling_accents :
    let read : Cursor := ⟨'é' :: "Truest".toList, 2⟩
    let refused : Cursor := ⟨'é' :: "fals".toList, 2⟩
    let atEnd : Cursor := ⟨['é'], 2⟩
    read.WellFormed ∧ boolean.Succeeds read true ⟨read.source, 6⟩ ∧
      refused.WellFormed ∧
      boolean.Fails refused (.noAlternative "fals".toList
        [.missingLiteral "true".toList "fals".toList, .missingLiteral "True".toList "fals".toList,
          .missingLiteral "false".toList "fals".toList,
          .missingLiteral "False".toList "fals".toList]) refused ∧
      atEnd.WellFormed ∧
      boolean.Fails atEnd (.noAlternative []
        [.missingLiteral "true".toList [], .missingLiteral "True".toList [],
          .missingLiteral "false".toList [], .missingLiteral "False".toList []]) atEnd := by
  intro read refused atEnd
  have hread : read.WellFormed := ⟨⟨['é'], "Truest".toList, rfl, rfl⟩, by decide⟩
  have hrefused : refused.WellFormed := ⟨⟨['é'], "fals".toList, rfl, rfl⟩, by decide⟩
  have hend : atEnd.WellFormed := ⟨⟨['é'], [], rfl, rfl⟩, by decide⟩
  obtain ⟨d, hd, htrue⟩ := (boolean_reads_spelling hread).1 true "True".toList
    (by decide) (by decide)
  obtain rfl : d = ⟨read.source, 6⟩ := Cursor.ext htrue.source htrue.position
  exact ⟨hread, hd, hrefused, (boolean_reads_spelling hrefused).2.1 (by decide), hend,
    (boolean_reads_spelling hend).2.1 (by decide)⟩

end Backtrack.Parser
