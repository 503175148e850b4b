import Backtrack.Parser.Lexical
import Backtrack.Parser.Sequence
import Mathlib.Data.List.Forall2

/-!
# Success and failure

Apart from its trace, a parser that comes to an end at a cursor either succeeds there,
with a value and the cursor where it stopped, or fails, with a failure and the cursor
that it left.  Both are relations, and at each cursor at most one of them holds.  For
every combinator they are given here by the same relations of its parts, so nothing
that is not about traces has to look into a combinator again.
-/

namespace Backtrack.Parser

variable {α β : Type}

/-- From `c`, the parser succeeds with the value `a` and stops at `d`. -/
def Succeeds (p : Parser α) (c : Cursor) (a : α) (d : Cursor) : Prop :=
  ∃ es, p.parse c = some ⟨.ok a, d, es⟩

/-- From `c`, the parser fails with `e` and leaves the cursor at `d`. -/
def Fails (p : Parser α) (c : Cursor) (e : Failure) (d : Cursor) : Prop :=
  ∃ es, p.parse c = some ⟨.error e, d, es⟩

/-! ## One outcome -/

theorem Succeeds.unique {p : Parser α} {c d d' : Cursor} {a a' : α} (h : p.Succeeds c a d)
    (h' : p.Succeeds c a' d') : a = a' ∧ d = d' := by
  obtain ⟨es, h⟩ := h
  obtain ⟨es', h'⟩ := h'
  rw [h] at h'
  cases h'
  exact ⟨rfl, rfl⟩

theorem Fails.unique {p : Parser α} {c d d' : Cursor} {e e' : Failure} (h : p.Fails c e d)
    (h' : p.Fails c e' d') : e = e' ∧ d = d' := by
  obtain ⟨es, h⟩ := h
  obtain ⟨es', h'⟩ := h'
  rw [h] at h'
  cases h'
  exact ⟨rfl, rfl⟩

theorem Succeeds.not_fails {p : Parser α} {c d d' : Cursor} {a : α} {e : Failure}
    (h : p.Succeeds c a d) : ¬ p.Fails c e d' := by
  rintro ⟨es', h'⟩
  obtain ⟨es, h⟩ := h
  rw [h] at h'
  cases h'

/-! ## Agreement -/

/-- From every cursor, both parsers come to no end, or both end with the same outcome and
leave the cursor at the same place.  What they note may differ. -/
def Agrees (p q : Parser α) : Prop :=
  ∀ c, (p.parse c).map (fun r ↦ (r.outcome, r.cursor)) =
    (q.parse c).map fun r ↦ (r.outcome, r.cursor)

theorem Agrees.symm {p q : Parser α} (h : p.Agrees q) : q.Agrees p := fun c ↦ (h c).symm

theorem Agrees.trans {p q r : Parser α} (h : p.Agrees q) (h' : q.Agrees r) : p.Agrees r :=
  fun c ↦ (h c).trans (h' c)

theorem succeeds_iff_map {p : Parser α} {c d : Cursor} {a : α} :
    p.Succeeds c a d ↔ (p.parse c).map (fun r ↦ (r.outcome, r.cursor)) = some (.ok a, d) := by
  rw [Succeeds]
  rcases p.parse c with _ | ⟨_ | b, m, es⟩ <;> simp

theorem fails_iff_map {p : Parser α} {c d : Cursor} {e : Failure} :
    p.Fails c e d ↔ (p.parse c).map (fun r ↦ (r.outcome, r.cursor)) = some (.error e, d) := by
  rw [Fails]
  rcases p.parse c with _ | ⟨_ | b, m, es⟩ <;> simp

/-- Parsers agree when they have the same successes and the same failures. -/
theorem agrees_iff {p q : Parser α} :
    p.Agrees q ↔ ∀ c, (∀ a d, p.Succeeds c a d ↔ q.Succeeds c a d) ∧
      ∀ e d, p.Fails c e d ↔ q.Fails c e d := by
  simp only [succeeds_iff_map, fails_iff_map]
  refine forall_congr' fun c ↦ ⟨fun h ↦ by rw [h]; simp, fun ⟨hs, hf⟩ ↦ ?_⟩
  refine Option.ext ?_
  rintro ⟨_ | a, d⟩
  · exact hf _ d
  · exact hs a d

/-! ## Constant parsers -/

@[simp] theorem succeeds_always {a b : α} {c d : Cursor} :
    (always a).Succeeds c b d ↔ b = a ∧ d = c := by
  simp [Succeeds, always, eq_comm]

@[simp] theorem fails_always {a : α} {c d : Cursor} {e : Failure} :
    ¬ (always a).Fails c e d := by
  simp [Fails, always]

@[simp] theorem succeeds_never {a : α} {c d : Cursor} : ¬ never.Succeeds c a d := by
  simp [Succeeds, never]

@[simp] theorem fails_never {c d : Cursor} {e : Failure} :
    (never : Parser α).Fails c e d ↔ e = .never ∧ d = c := by
  simp [Fails, never, eq_comm]

@[simp] theorem succeeds_endless {a : α} {c d : Cursor} : ¬ endless.Succeeds c a d := by
  simp [Succeeds]

@[simp] theorem fails_endless {c d : Cursor} {e : Failure} :
    ¬ (endless : Parser α).Fails c e d := by
  simp [Fails]

/-! ## Lexical parsers -/

theorem succeeds_anyChar {c d : Cursor} {x : Char} :
    anyChar.Succeeds c x d ↔ c.peek = some x ∧ d = c.advance x.utf8Size := by
  rw [Succeeds, parse_anyChar]
  rcases h : c.peek with _ | y
  · simp
  · constructor
    · rintro ⟨es, ⟨⟩⟩
      exact ⟨rfl, rfl⟩
    · rintro ⟨⟨⟩, rfl⟩
      exact ⟨[], rfl⟩

theorem fails_anyChar {c d : Cursor} {e : Failure} :
    anyChar.Fails c e d ↔ c.peek = none ∧ e = .endOfInput ∧ d = c := by
  rw [Fails, parse_anyChar]
  cases c.peek <;> simp [eq_comm]

theorem succeeds_literal {x : Text} {c d : Cursor} {u : Unit} :
    (literal x).Succeeds c u d ↔ x.isPrefixOf c.rest = true ∧ d = c.advance x.byteSize := by
  rw [Succeeds, parse_literal]
  split <;> simp [*, eq_comm]

theorem fails_literal {x : Text} {c d : Cursor} {e : Failure} :
    (literal x).Fails c e d ↔
      x.isPrefixOf c.rest = false ∧ e = .missingLiteral x c.rest ∧ d = c := by
  rw [Fails, parse_literal]
  split <;> simp [*, eq_comm]

theorem succeeds_span {accepts : Char → Bool} {c d : Cursor} {t : Text} :
    (span accepts).Succeeds c t d ↔
      t = c.rest.takeWhile accepts ∧ d = c.advance t.byteSize := by
  rw [Succeeds, parse_span]
  constructor
  · rintro ⟨es, ⟨⟩⟩
    exact ⟨rfl, rfl⟩
  · rintro ⟨rfl, rfl⟩
    exact ⟨[], rfl⟩

@[simp] theorem fails_span {accepts : Char → Bool} {c d : Cursor} {e : Failure} :
    ¬ (span accepts).Fails c e d := by
  simp [Fails]

theorem succeeds_integer {c d : Cursor} {n : Int64} :
    integer.Succeeds c n d ↔
      Numeral.read 10 (c.rest.takeWhile Text.isNumeric) = .ok n ∧
        d = c.advance (Text.byteSize (c.rest.takeWhile Text.isNumeric)) := by
  rw [Succeeds, parse_integer]
  cases Numeral.read 10 (c.rest.takeWhile Text.isNumeric) <;> simp [eq_comm]

theorem fails_integer {c d : Cursor} {e : Failure} :
    integer.Fails c e d ↔
      (∃ fault, Numeral.read 10 (c.rest.takeWhile Text.isNumeric) = .error fault) ∧
        e = .notNumber (c.rest.takeWhile Text.isNumeric) c.rest ∧ d = c := by
  rw [Fails, parse_integer]
  cases Numeral.read 10 (c.rest.takeWhile Text.isNumeric) <;> simp [eq_comm]

/-! ## Transformations and tests -/

theorem succeeds_map {p : Parser α} {f : α → β} {c d : Cursor} {b : β} :
    (p.map f).Succeeds c b d ↔ ∃ a, p.Succeeds c a d ∧ f a = b := by
  simp only [Succeeds, parse_map]
  rcases p.parse c with _ | ⟨_ | a, m, es⟩ <;> simp [and_comm]

@[simp] theorem fails_map {p : Parser α} {f : α → β} {c d : Cursor} {e : Failure} :
    (p.map f).Fails c e d ↔ p.Fails c e d := by
  simp only [Fails, parse_map]
  rcases p.parse c with _ | ⟨_ | a, m, es⟩ <;> simp

theorem succeeds_tryMap {p : Parser α} {f : α → Except Text β} {c d : Cursor} {b : β} :
    (p.tryMap f).Succeeds c b d ↔ ∃ a, p.Succeeds c a d ∧ f a = .ok b := by
  simp only [Succeeds, parse_tryMap]
  rcases p.parse c with _ | ⟨_ | a, m, es⟩
  · simp
  · simp
  · cases h : f a <;> simp [h, and_comm]

theorem fails_tryMap {p : Parser α} {f : α → Except Text β} {c d : Cursor} {e : Failure} :
    (p.tryMap f).Fails c e d ↔ p.Fails c e d ∨
      ∃ a reason, p.Succeeds c a d ∧ f a = .error reason ∧ e = .rejected reason d.rest := by
  simp only [Fails, Succeeds, parse_tryMap]
  rcases p.parse c with _ | ⟨_ | a, m, es⟩
  · simp
  · simp
  · cases h : f a with
    | ok b => simp [h]
    | error reason =>
        simp only [h]
        constructor
        · rintro ⟨fs, ⟨⟩⟩
          exact .inr ⟨a, reason, ⟨es, rfl⟩, h, rfl⟩
        · rintro (⟨fs, ⟨⟩⟩ | ⟨a', reason', ⟨fs, ⟨⟩⟩, h', rfl⟩)
          rw [h] at h'
          cases h'
          exact ⟨es, rfl⟩

theorem succeeds_filter {p : Parser α} {keep : α → Bool} {reason : Text} {c d : Cursor} {a : α} :
    (p.filter keep reason).Succeeds c a d ↔ p.Succeeds c a d ∧ keep a = true := by
  simp only [Succeeds, parse_filter]
  rcases p.parse c with _ | ⟨_ | b, m, es⟩
  · simp
  · simp
  · dsimp only
    split
    · next h =>
        constructor
        · rintro ⟨fs, ⟨⟩⟩
          exact ⟨⟨es, rfl⟩, h⟩
        · exact fun h' ↦ h'.1
    · next h =>
        constructor
        · rintro ⟨fs, ⟨⟩⟩
        · rintro ⟨⟨fs, ⟨⟩⟩, h'⟩
          exact absurd h' h

theorem fails_filter {p : Parser α} {keep : α → Bool} {reason : Text} {c d : Cursor}
    {e : Failure} :
    (p.filter keep reason).Fails c e d ↔ p.Fails c e d ∨
      (∃ a m, p.Succeeds c a m ∧ keep a = false) ∧ e = .rejected reason c.rest ∧ d = c := by
  simp only [Fails, Succeeds, parse_filter]
  rcases p.parse c with _ | ⟨_ | a, m, es⟩
  · simp
  · simp
  · cases h : keep a
    · simp [h, eq_comm (a := c), eq_comm (a := Failure.rejected reason c.rest)]
    · simp [h]

/-! ## Sequences -/

theorem succeeds_zip {p : Parser α} {q : Parser β} {c d : Cursor} {v : α × β} :
    (p.zip q).Succeeds c v d ↔ ∃ m, p.Succeeds c v.1 m ∧ q.Succeeds m v.2 d := by
  simp only [Succeeds, parse_zip]
  rcases p.parse c with _ | ⟨_ | a, m, es⟩
  · simp
  · simp
  · rcases hq : q.parse m with _ | ⟨_ | b, d', fs⟩ <;> simp [hq, Prod.ext_iff, and_assoc]

theorem fails_zip {p : Parser α} {q : Parser β} {c d : Cursor} {e : Failure} :
    (p.zip q).Fails c e d ↔ p.Fails c e d ∨
      (∃ a m stop, p.Succeeds c a m ∧ q.Fails m e stop) ∧ d = c := by
  simp only [Succeeds, Fails, parse_zip]
  rcases p.parse c with _ | ⟨_ | a, m, es⟩
  · simp
  · simp
  · rcases hq : q.parse m with _ | ⟨e' | b, stop, fs⟩
    · simp [hq]
    · simp [hq, eq_comm (a := c)]
    · simp [hq]

theorem succeeds_flatMap {p : Parser α} {k : α → Parser β} {c d : Cursor} {b : β} :
    (p.flatMap k).Succeeds c b d ↔ ∃ a m, p.Succeeds c a m ∧ (k a).Succeeds m b d := by
  simp only [Succeeds, parse_flatMap]
  rcases p.parse c with _ | ⟨_ | a, m, es⟩
  · simp
  · simp
  · rcases hk : (k a).parse m with _ | ⟨_ | b', d', fs⟩ <;> simp [hk]

theorem fails_flatMap {p : Parser α} {k : α → Parser β} {c d : Cursor} {e : Failure} :
    (p.flatMap k).Fails c e d ↔ p.Fails c e d ∨
      (∃ a m stop, p.Succeeds c a m ∧ (k a).Fails m e stop) ∧ d = c := by
  simp only [Succeeds, Fails, parse_flatMap]
  rcases p.parse c with _ | ⟨_ | a, m, es⟩
  · simp
  · simp
  · rcases hk : (k a).parse m with _ | ⟨e' | b, stop, fs⟩
    · simp [hk]
    · simp [hk, eq_comm (a := c)]
    · simp [hk]

/-! ## Choices -/

theorem succeeds_orElse {p q : Parser α} {c d : Cursor} {a : α} :
    (p.orElse q).Succeeds c a d ↔
      p.Succeeds c a d ∨ (∃ e stop, p.Fails c e stop) ∧ q.Succeeds c a d := by
  simp only [Succeeds, Fails, parse_orElse]
  rcases p.parse c with _ | ⟨e | b, m, es⟩
  · simp
  · rcases q.parse c with _ | ⟨_ | b, d', fs⟩ <;> simp
  · simp

theorem fails_orElse {p q : Parser α} {c d : Cursor} {e : Failure} :
    (p.orElse q).Fails c e d ↔
      (∃ e₁ e₂, (∃ stop, p.Fails c e₁ stop) ∧ (∃ stop, q.Fails c e₂ stop) ∧
        e = .exhausted c.rest [e₁, e₂]) ∧ d = c := by
  simp only [Fails, parse_orElse]
  rcases p.parse c with _ | ⟨e₁ | b, m, es⟩
  · simp
  · rcases q.parse c with _ | ⟨_ | b, d', fs⟩ <;> simp [eq_comm]
  · simp

/-- From `c`, all parsers of the list fail, with the listed failures in this order. -/
abbrev AllFail (c : Cursor) (ps : List (Parser α)) (es : List Failure) : Prop :=
  List.Forall₂ (fun p e ↦ ∃ d, p.Fails c e d) ps es

/-- From `c`, the first parser of the list that does not fail succeeds with the value
`a` and stops at `d`. -/
inductive FirstSucceeds (c : Cursor) : List (Parser α) → α → Cursor → Prop
  | head {p : Parser α} {ps : List (Parser α)} {a : α} {d : Cursor} :
      p.Succeeds c a d → FirstSucceeds c (p :: ps) a d
  | tail {p : Parser α} {ps : List (Parser α)} {e : Failure} {a : α} {stop d : Cursor} :
      p.Fails c e stop → FirstSucceeds c ps a d → FirstSucceeds c (p :: ps) a d

theorem not_firstSucceeds_nil {c d : Cursor} {a : α} : ¬ FirstSucceeds c [] a d :=
  fun h ↦ nomatch h

theorem firstSucceeds_cons {c d : Cursor} {p : Parser α} {ps : List (Parser α)} {a : α} :
    FirstSucceeds c (p :: ps) a d ↔
      p.Succeeds c a d ∨ (∃ e stop, p.Fails c e stop) ∧ FirstSucceeds c ps a d := by
  constructor
  · intro h
    cases h with
    | head h => exact .inl h
    | tail hp h => exact .inr ⟨⟨_, _, hp⟩, h⟩
  · rintro (h | ⟨⟨e, stop, hp⟩, h⟩)
    · exact .head h
    · exact .tail hp h

theorem firstSucceeds_append {c d : Cursor} {ps qs : List (Parser α)} {a : α} :
    FirstSucceeds c (ps ++ qs) a d ↔
      FirstSucceeds c ps a d ∨ (∃ es, AllFail c ps es) ∧ FirstSucceeds c qs a d := by
  induction ps with
  | nil => simp [not_firstSucceeds_nil]
  | cons p ps ih =>
      rw [List.cons_append, firstSucceeds_cons, firstSucceeds_cons, ih]
      constructor
      · rintro (h | ⟨hp, h | ⟨⟨es, hes⟩, h⟩⟩)
        · exact .inl (.inl h)
        · exact .inl (.inr ⟨hp, h⟩)
        · obtain ⟨e, stop, hp⟩ := hp
          exact .inr ⟨⟨e :: es, .cons ⟨stop, hp⟩ hes⟩, h⟩
      · rintro ((h | ⟨hp, h⟩) | ⟨⟨_, hes⟩, h⟩)
        · exact .inl h
        · exact .inr ⟨hp, .inl h⟩
        · cases hes with
          | cons hp hes =>
              obtain ⟨stop, hp⟩ := hp
              exact .inr ⟨⟨_, stop, hp⟩, .inr ⟨⟨_, hes⟩, h⟩⟩

theorem allFail_append {c : Cursor} {ps qs : List (Parser α)} {es : List Failure} :
    AllFail c (ps ++ qs) es ↔
      ∃ es₁ es₂, AllFail c ps es₁ ∧ AllFail c qs es₂ ∧ es = es₁ ++ es₂ := by
  constructor
  · intro h
    induction ps generalizing es with
    | nil => exact ⟨[], es, .nil, h, rfl⟩
    | cons p ps ih =>
        cases h with
        | @cons _ e _ es hp hes =>
            obtain ⟨es₁, es₂, h₁, h₂, rfl⟩ := ih hes
            exact ⟨e :: es₁, es₂, .cons hp h₁, h₂, rfl⟩
  · rintro ⟨es₁, es₂, h₁, h₂, rfl⟩
    exact List.rel_append h₁ h₂

theorem FirstSucceeds.exists_mem {c d : Cursor} {ps : List (Parser α)} {a : α}
    (h : FirstSucceeds c ps a d) : ∃ p ∈ ps, p.Succeeds c a d := by
  induction h with
  | head h => exact ⟨_, List.mem_cons_self, h⟩
  | tail _ _ ih =>
      obtain ⟨p, hp, h⟩ := ih
      exact ⟨p, List.mem_cons_of_mem _ hp, h⟩

theorem AllFail.exists_of_mem {c : Cursor} {ps : List (Parser α)} {es : List Failure}
    (h : AllFail c ps es) {e : Failure} (he : e ∈ es) : ∃ p ∈ ps, ∃ d, p.Fails c e d := by
  induction h with
  | nil => cases he
  | @cons p e' ps es hp _ ih =>
      rcases List.mem_cons.mp he with rfl | he
      · exact ⟨p, List.mem_cons_self, hp⟩
      · obtain ⟨q, hq, h⟩ := ih he
        exact ⟨q, List.mem_cons_of_mem _ hq, h⟩

theorem AllFail.fails_of_mem {c : Cursor} {ps : List (Parser α)} {es : List Failure}
    (h : AllFail c ps es) {p : Parser α} (hp : p ∈ ps) : ∃ e d, p.Fails c e d := by
  induction h with
  | nil => cases hp
  | @cons q e ps es hq _ ih =>
      rcases List.mem_cons.mp hp with rfl | hp
      · exact ⟨e, hq⟩
      · exact ih hp

theorem AllFail.ne_nil {c : Cursor} {p : Parser α} {ps : List (Parser α)} {es : List Failure}
    (h : AllFail c (p :: ps) es) : es ≠ [] := by
  cases h
  exact List.cons_ne_nil _ _

theorem AllFail.unique {c : Cursor} {ps : List (Parser α)} {es es' : List Failure}
    (h : AllFail c ps es) (h' : AllFail c ps es') : es = es' := by
  refine List.right_unique_forall₂' ?_ h h'
  rintro p e e' ⟨_, he⟩ ⟨_, he'⟩
  exact (he.unique he').1

/-- Earlier events decide nothing about the outcome. -/
private theorem exists_map_after {o : Option (Reply α)} {x : Except Failure α} {d : Cursor}
    {es : List Event} :
    (∃ fs, o.map (Reply.after es) = some ⟨x, d, fs⟩) ↔ ∃ fs, o = some ⟨x, d, fs⟩ := by
  rcases o with _ | ⟨y, m, gs⟩ <;> simp

theorem succeeds_firstOf {start c d : Cursor} {index : Nat} {failed : List Failure}
    {ps : List (Parser α)} {a : α} :
    (firstOf start index failed ps).Succeeds c a d ↔ FirstSucceeds start ps a d := by
  induction ps generalizing index failed c with
  | nil =>
      constructor
      · rintro ⟨es, h⟩
        cases h
      · intro h
        cases h
  | cons p ps ih =>
      rw [Succeeds, parse_firstOf_cons]
      constructor
      · intro h
        rcases hp : p.parse start with _ | ⟨e | b, m, es⟩
        · simp [hp] at h
        · simp only [hp, exists_map_after] at h
          exact .tail ⟨es, hp⟩ (ih.mp h)
        · simp only [hp] at h
          obtain ⟨fs, ⟨⟩⟩ := h
          exact .head ⟨es, hp⟩
      · intro h
        cases h with
        | head h =>
            obtain ⟨es, h⟩ := h
            exact ⟨es, by rw [h]⟩
        | tail hp h =>
            obtain ⟨es, hp⟩ := hp
            simp only [hp, exists_map_after]
            exact ih.mpr h

theorem fails_firstOf {start c d : Cursor} {index : Nat} {failed : List Failure}
    {ps : List (Parser α)} {e : Failure} :
    (firstOf start index failed ps).Fails c e d ↔
      (∃ es, AllFail start ps es ∧ e = .exhausted start.rest (failed ++ es)) ∧ d = start := by
  induction ps generalizing index failed c with
  | nil => simp [Fails, eq_comm]
  | cons p ps ih =>
      rw [Fails, parse_firstOf_cons]
      constructor
      · intro h
        rcases hp : p.parse start with _ | ⟨e₁ | b, m, fs⟩
        · simp [hp] at h
        · simp only [hp, exists_map_after] at h
          obtain ⟨⟨es, hes, rfl⟩, rfl⟩ := ih.mp h
          exact ⟨⟨e₁ :: es, .cons ⟨m, fs, hp⟩ hes, by simp⟩, rfl⟩
        · simp [hp] at h
      · rintro ⟨⟨es, hes, rfl⟩, rfl⟩
        cases hes with
        | @cons _ e₁ _ es hp hes =>
            obtain ⟨m, fs, hp⟩ := hp
            simp only [hp, exists_map_after]
            exact ih.mpr ⟨⟨es, hes, by simp⟩, rfl⟩

theorem succeeds_choice {p : Parser α} {ps : List (Parser α)} {c d : Cursor} {a : α} :
    (choice p ps).Succeeds c a d ↔ FirstSucceeds c (p :: ps) a d := by
  rw [Succeeds, parse_choice]
  exact succeeds_firstOf

theorem fails_choice {p : Parser α} {ps : List (Parser α)} {c d : Cursor} {e : Failure} :
    (choice p ps).Fails c e d ↔
      (∃ es, AllFail c (p :: ps) es ∧ e = .exhausted c.rest es) ∧ d = c := by
  rw [Fails, parse_choice]
  exact fails_firstOf

end Backtrack.Parser
