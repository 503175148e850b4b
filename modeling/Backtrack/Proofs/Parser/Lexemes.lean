import Backtrack.Proofs.Parser.Integer

/-!
# Sequences of lexemes

Many sequences consist of literals, non-empty runs and numbers only, and differ in what they
make of the values.  Each of these lexemes matches one beginning of a text or none, and its
parser leaves the cursor alone where it does not match.  So such a sequence is described by the
list of its lexemes (`Parser.Reads`): it succeeds when all of them match, each where the one
before it ended.  Otherwise it fails as the first one that does not, on the text that is left
there, although the cursor goes all the way back.

A sequence of two sequences reads the lexemes of both (`Parser.Reads.zip`), so it does not
matter how the sequence is bracketed.
-/

namespace Backtrack

/-- What is asked for in one place of a text. -/
inductive Lexeme where
  /-- Exactly the expected text. -/
  | literal (expected : Text)
  /-- The longest run of accepted characters, which must not be empty. -/
  | run (accepts : Char → Bool) (reason : Text)
  /-- The longest run of numerals, which must be a number of the range. -/
  | number

namespace Lexeme

/-- The lexeme matches the given beginning of the text. -/
inductive Matches : Lexeme → Text → Text → Prop
  | literal {t x : Text} : x <+: t → Matches (literal x) t x
  | run {t r reason : Text} {accepts : Char → Bool} :
      t.IsLongestRun accepts r → r ≠ [] → Matches (run accepts reason) t r
  | number {t digits : Text} :
      t.IsLongestRun Text.isNumeric digits → Numeral.Representable digits →
        Matches number t digits

/-- How the lexeme fails on a text that it does not match. -/
def failure : Lexeme → Text → Failure
  | literal x, t => .missingLiteral x t
  | run _ reason, t => .rejected reason t
  | number, t => .notNumber (t.takeWhile Text.isNumeric) t

variable {l : Lexeme} {ls ms : List Lexeme} {t r rest : Text} {runs : List Text} {e : Failure}

theorem matches_literal {x : Text} : (literal x).Matches t r ↔ x <+: t ∧ r = x := by
  constructor
  · intro h
    cases h with
    | literal h => exact ⟨h, rfl⟩
  · rintro ⟨h, rfl⟩
    exact .literal h

theorem matches_run {accepts : Char → Bool} {reason : Text} :
    (run accepts reason).Matches t r ↔ t.takeWhile accepts = r ∧ r ≠ [] := by
  rw [← Text.isLongestRun_iff]
  constructor
  · intro h
    cases h with
    | run h hr => exact ⟨h, hr⟩
  · rintro ⟨h, hr⟩
    exact .run h hr

theorem matches_number :
    number.Matches t r ↔ t.takeWhile Text.isNumeric = r ∧ Numeral.Representable r := by
  rw [← Text.isLongestRun_iff]
  constructor
  · intro h
    cases h with
    | number h hr => exact ⟨h, hr⟩
  · rintro ⟨h, hr⟩
    exact .number h hr

/-- What comes before the rest is matched if the rest does not go on with it. -/
theorem matches_run_append {accepts : Char → Bool} {reason : Text} :
    (run accepts reason).Matches (r ++ rest) r ↔ r ≠ [] ∧ (∀ x ∈ r, accepts x = true) ∧
      ∀ x, rest.head? = some x → accepts x = false := by
  rw [matches_run, ← Text.isLongestRun_iff, Text.isLongestRun_append_iff, and_comm]

theorem matches_number_append :
    number.Matches (r ++ rest) r ↔
      Numeral.Representable r ∧ ∀ x, rest.head? = some x → Text.isNumeric x = false := by
  rw [matches_number, ← Text.isLongestRun_iff, Text.isLongestRun_append_iff, and_comm]
  refine and_congr_right fun h ↦ ?_
  rw [and_iff_right h.isDigits.isNumeric]

theorem Matches.starts (h : l.Matches t r) : r <+: t := by
  cases h with
  | literal h => exact h
  | run h _ => exact h.starts
  | number h _ => exact h.starts

theorem Matches.unique {s : Text} (h : l.Matches t r) (hs : l.Matches t s) : r = s := by
  cases l with
  | literal x => exact (matches_literal.mp h).2.trans (matches_literal.mp hs).2.symm
  | run accepts reason => exact (matches_run.mp h).1.symm.trans (matches_run.mp hs).1
  | number => exact (matches_number.mp h).1.symm.trans (matches_number.mp hs).1

/-! ## All lexemes in order -/

/-- The lexemes match the given texts, one after the other from the start of the text, and
leave the rest. -/
inductive MatchAll : List Lexeme → Text → List Text → Text → Prop
  | nil {t : Text} : MatchAll [] t [] t
  | cons {l : Lexeme} {ls : List Lexeme} {t r rest : Text} {runs : List Text} :
      l.Matches (r ++ t) r → MatchAll ls t runs rest →
        MatchAll (l :: ls) (r ++ t) (r :: runs) rest

theorem MatchAll.exists_cons (h : MatchAll (l :: ls) t runs rest) :
    ∃ r u rs, t = r ++ u ∧ runs = r :: rs ∧ l.Matches (r ++ u) r ∧ MatchAll ls u rs rest := by
  cases h with
  | cons hl h => exact ⟨_, _, _, rfl, rfl, hl, h⟩

theorem MatchAll.text_eq (h : MatchAll ls t runs rest) : t = runs.flatten ++ rest := by
  induction h with
  | nil => rfl
  | cons _ _ ih => rw [ih, List.flatten_cons, List.append_assoc]

theorem MatchAll.length_eq (h : MatchAll ls t runs rest) : runs.length = ls.length := by
  induction h with
  | nil => rfl
  | cons _ _ ih => rw [List.length_cons, ih, List.length_cons]

/-- A text can be taken apart in one way only. -/
theorem MatchAll.unique {runs' : List Text} {rest' : Text} (h : MatchAll ls t runs rest)
    (h' : MatchAll ls t runs' rest') : runs = runs' ∧ rest = rest' := by
  induction h generalizing runs' rest' with
  | nil =>
      cases h'
      exact ⟨rfl, rfl⟩
  | @cons l ls t r rest runs hl _ ih =>
      generalize ht : r ++ t = u at h' hl
      cases h' with
      | cons hl' h' =>
          obtain rfl := hl.unique hl'
          obtain rfl := List.append_cancel_left ht
          obtain ⟨rfl, rfl⟩ := ih h'
          exact ⟨rfl, rfl⟩

theorem matchAll_append :
    MatchAll (ls ++ ms) t runs rest ↔
      ∃ rs mid ss, MatchAll ls t rs mid ∧ MatchAll ms mid ss rest ∧ runs = rs ++ ss := by
  constructor
  · intro h
    induction ls generalizing t runs with
    | nil => exact ⟨[], t, runs, .nil, h, rfl⟩
    | cons l ls ih =>
        cases h with
        | cons hl h =>
            obtain ⟨rs, mid, ss, hrs, hss, rfl⟩ := ih h
            exact ⟨_ :: rs, mid, ss, .cons hl hrs, hss, rfl⟩
  · rintro ⟨rs, mid, ss, hrs, hss, rfl⟩
    induction hrs with
    | nil => exact hss
    | cons hl _ ih => exact .cons hl (ih hss)

/-! ## The first lexeme that does not match -/

/-- One of the lexemes does not match what the ones before it leave, and that is its failure. -/
inductive FirstRefuses : List Lexeme → Text → Failure → Prop
  | head {l : Lexeme} {ls : List Lexeme} {t : Text} :
      (∀ r, ¬ l.Matches t r) → FirstRefuses (l :: ls) t (l.failure t)
  | tail {l : Lexeme} {ls : List Lexeme} {t r : Text} {e : Failure} :
      l.Matches (r ++ t) r → FirstRefuses ls t e → FirstRefuses (l :: ls) (r ++ t) e

theorem firstRefuses_append :
    FirstRefuses (ls ++ ms) t e ↔ FirstRefuses ls t e ∨
      ∃ runs rest, MatchAll ls t runs rest ∧ FirstRefuses ms rest e := by
  constructor
  · intro h
    induction ls generalizing t with
    | nil => exact .inr ⟨[], t, .nil, h⟩
    | cons l ls ih =>
        cases h with
        | head hl => exact .inl (.head hl)
        | tail hl h =>
            rcases ih h with h | ⟨runs, rest, hruns, h⟩
            · exact .inl (.tail hl h)
            · exact .inr ⟨_ :: runs, rest, .cons hl hruns, h⟩
  · rintro (h | ⟨runs, rest, hruns, h⟩)
    · induction h with
      | head hl => exact .head hl
      | tail hl _ ih => exact .tail hl ih
    · induction hruns with
      | nil => exact h
      | cons hl _ ih => exact .tail hl (ih h)

theorem firstRefuses_iff :
    FirstRefuses ls t e ↔ ∃ before l after runs rest, ls = before ++ l :: after ∧
      MatchAll before t runs rest ∧ (∀ r, ¬ l.Matches rest r) ∧ e = l.failure rest := by
  constructor
  · intro h
    induction h with
    | @head l ls t hl => exact ⟨[], l, ls, [], t, rfl, .nil, hl, rfl⟩
    | @tail l _ _ r _ hl _ ih =>
        obtain ⟨before, m, after, runs, rest, rfl, hruns, hm, rfl⟩ := ih
        exact ⟨l :: before, m, after, r :: runs, rest, rfl, .cons hl hruns, hm, rfl⟩
  · rintro ⟨before, l, after, runs, rest, rfl, hruns, hl, rfl⟩
    exact firstRefuses_append.mpr (.inr ⟨runs, rest, hruns, .head hl⟩)

theorem MatchAll.not_firstRefuses (h : MatchAll ls t runs rest) : ¬ FirstRefuses ls t e := by
  induction h with
  | nil =>
      intro hf
      cases hf
  | @cons l ls t r _ _ hl _ ih =>
      intro hf
      generalize ht : r ++ t = u at hl hf
      cases hf with
      | head hno => exact hno r hl
      | tail hl' hf =>
          obtain rfl := hl.unique hl'
          obtain rfl := List.append_cancel_left ht
          exact ih hf

/-- Either all lexemes match or some first one does not. -/
theorem matchAll_or_firstRefuses (ls : List Lexeme) (t : Text) :
    (∃ runs rest, MatchAll ls t runs rest) ∨ ∃ e, FirstRefuses ls t e := by
  induction ls generalizing t with
  | nil => exact .inl ⟨[], t, .nil⟩
  | cons l ls ih =>
      by_cases hl : ∃ r, l.Matches t r
      · obtain ⟨r, hr⟩ := hl
        obtain ⟨u, rfl⟩ := hr.starts
        rcases ih u with ⟨runs, rest, h⟩ | ⟨e, h⟩
        · exact .inl ⟨r :: runs, rest, .cons hr h⟩
        · exact .inr ⟨e, .tail hr h⟩
      · exact .inr ⟨_, .head (not_exists.mp hl)⟩

end Lexeme

/-! ## Parsers of lexemes -/

namespace Parser

variable {α β : Type} {ls ms : List Lexeme} {c d : Cursor}

/-- The parser reads the lexemes in order, and makes its value of the texts that they match.
Where one of them does not match, it fails as that one and leaves the cursor where it was. -/
structure Reads (p : Parser α) (ls : List Lexeme) (value : List Text → α) : Prop where
  succeeds {c d : Cursor} {a : α} : c.WellFormed → (p.Succeeds c a d ↔
    ∃ runs, Lexeme.MatchAll ls c.rest runs d.rest ∧ c.Consumes runs.flatten d ∧ a = value runs)
  fails {c d : Cursor} {e : Failure} : c.WellFormed →
    (p.Fails c e d ↔ Lexeme.FirstRefuses ls c.rest e ∧ d = c)

/-- Where the lexemes match, the parser succeeds and consumes what they match. -/
theorem Reads.exists_succeeds {p : Parser α} {f : List Text → α} {runs : List Text} {rest : Text}
    (hp : p.Reads ls f) (hc : c.WellFormed) (h : Lexeme.MatchAll ls c.rest runs rest) :
    ∃ d, c.Consumes runs.flatten d ∧ d.rest = rest ∧ p.Succeeds c (f runs) d := by
  have hd := hc.consumes_advance h.text_eq
  obtain rfl := List.append_cancel_left (h.text_eq.symm.trans hd.rest)
  exact ⟨_, hd, rfl, (hp.succeeds hc).mpr ⟨runs, h, hd, rfl⟩⟩

/-- A parser of one lexeme, with what it makes of the matched text. -/
theorem reads_one {p : Parser α} {l : Lexeme} {f : Text → α}
    (hs : ∀ {c d : Cursor} {a : α}, c.WellFormed →
      (p.Succeeds c a d ↔ ∃ r, l.Matches c.rest r ∧ c.Consumes r d ∧ a = f r))
    (hf : ∀ {c d : Cursor} {e : Failure}, c.WellFormed →
      (p.Fails c e d ↔ (∀ r, ¬ l.Matches c.rest r) ∧ e = l.failure c.rest ∧ d = c)) :
    p.Reads [l] fun runs ↦ f (runs.headD []) where
  succeeds {c d a} hc := by
    rw [hs hc]
    constructor
    · rintro ⟨r, hl, hd, rfl⟩
      refine ⟨[r], ?_, by simpa using hd, rfl⟩
      rw [hd.rest] at hl ⊢
      exact .cons hl .nil
    · rintro ⟨_, hall, hd, rfl⟩
      obtain ⟨r, _, _, hrest, rfl, hl, hnil⟩ := hall.exists_cons
      cases hnil
      exact ⟨r, hrest ▸ hl, by simpa using hd, rfl⟩
  fails {c d e} hc := by
    rw [hf hc, ← and_assoc]
    refine and_congr_left fun _ ↦ ⟨?_, ?_⟩
    · rintro ⟨hl, rfl⟩
      exact .head hl
    · intro h
      generalize c.rest = t at h
      cases h with
      | head hl => exact ⟨hl, rfl⟩
      | tail _ h => cases h

/-! ### Lexical parsers -/

theorem reads_literal (x : Text) : (literal x).Reads [.literal x] fun _ ↦ () := by
  refine reads_one (f := fun _ ↦ ()) ?_ ?_
  · intro c d _ hc
    simp only [succeeds_literal, List.isPrefixOf_iff_prefix, Lexeme.matches_literal]
    constructor
    · rintro ⟨hx, rfl⟩
      exact ⟨x, ⟨hx, rfl⟩, (hc.consumes_iff hx).mpr rfl, trivial⟩
    · rintro ⟨_, ⟨hx, rfl⟩, hd, -⟩
      exact ⟨hx, (hc.consumes_iff hx).mp hd⟩
  · intro c d e _
    rw [fails_literal, ← Bool.not_eq_true, List.isPrefixOf_iff_prefix]
    refine and_congr_left fun _ ↦ ?_
    simp [Lexeme.matches_literal]

theorem reads_run (accepts : Char → Bool) (reason : Text) :
    ((span accepts).filter (fun t ↦ !t.isEmpty) reason).Reads [.run accepts reason]
      fun runs ↦ runs.headD [] := by
  refine reads_one (f := fun r ↦ r) ?_ ?_
  · intro c d t hc
    have hstarts := List.takeWhile_prefix (l := c.rest) accepts
    simp only [succeeds_filter, succeeds_span, Lexeme.matches_run]
    constructor
    · rintro ⟨⟨rfl, hd⟩, hne⟩
      exact ⟨_, ⟨rfl, by simpa using hne⟩, (hc.consumes_iff hstarts).mpr hd, rfl⟩
    · rintro ⟨_, ⟨rfl, hne⟩, hd, rfl⟩
      exact ⟨⟨rfl, (hc.consumes_iff hstarts).mp hd⟩, by simpa using hne⟩
  · intro c d e _
    rw [fails_filter, or_iff_right fails_span]
    refine and_congr_left fun _ ↦ ?_
    simp [succeeds_span, Lexeme.matches_run]

theorem reads_integer :
    integer.Reads [.number] fun runs ↦ Int64.ofNat (Nat.ofDigitChars 10 (runs.headD []) 0) := by
  refine reads_one (f := fun r ↦ Int64.ofNat (Nat.ofDigitChars 10 r 0)) ?_ ?_
  · intro c d n hc
    rw [succeeds_integer_run hc (Text.isLongestRun_takeWhile _ _)]
    simp only [Lexeme.matches_number]
    constructor
    · rintro ⟨hdigits, hn, hd⟩
      have hlt := n.toInt_lt
      have hrange : Numeral.Representable (c.rest.takeWhile Text.isNumeric) :=
        ⟨hdigits, by omega⟩
      exact ⟨_, ⟨rfl, hrange⟩, hd, Int64.toInt_inj.mp (hn.symm.trans hrange.toInt_ofNat.symm)⟩
    · rintro ⟨_, ⟨rfl, hdigits⟩, hd, rfl⟩
      exact ⟨hdigits.isDigits, hdigits.toInt_ofNat.symm, hd⟩
  · intro c d e _
    rw [fails_integer_run (Text.isLongestRun_takeWhile _ _)]
    refine and_congr_left fun _ ↦ ?_
    simp [Lexeme.matches_number]

/-! ### Combinators -/

variable {p : Parser α} {q : Parser β} {f : List Text → α} {g : List Text → β}

theorem Reads.map (hp : p.Reads ls f) (h : α → β) : (p.map h).Reads ls fun runs ↦ h (f runs) where
  succeeds {c d b} hc := by
    rw [succeeds_map]
    constructor
    · rintro ⟨a, ha, rfl⟩
      obtain ⟨runs, hruns, hd, rfl⟩ := (hp.succeeds hc).mp ha
      exact ⟨runs, hruns, hd, rfl⟩
    · rintro ⟨runs, hruns, hd, rfl⟩
      exact ⟨_, (hp.succeeds hc).mpr ⟨runs, hruns, hd, rfl⟩, rfl⟩
  fails hc := by rw [fails_map, hp.fails hc]

theorem Reads.zip (hp : p.Reads ls f) (hq : q.Reads ms g) :
    (p.zip q).Reads (ls ++ ms) fun runs ↦ (f (runs.take ls.length), g (runs.drop ls.length)) where
  succeeds {c d v} hc := by
    rw [succeeds_zip]
    constructor
    · rintro ⟨m, ha, hb⟩
      obtain ⟨rs, hrs, hm, hv₁⟩ := (hp.succeeds hc).mp ha
      obtain ⟨ss, hss, hd, hv₂⟩ := (hq.succeeds (hm.wellFormed hc)).mp hb
      refine ⟨rs ++ ss, Lexeme.matchAll_append.mpr ⟨rs, _, ss, hrs, hss, rfl⟩, ?_, ?_⟩
      · rw [List.flatten_append]
        exact hm.append hd
      · rw [← hrs.length_eq, List.take_left, List.drop_left]
        exact Prod.ext hv₁ hv₂
    · rintro ⟨_, hruns, hd, rfl⟩
      obtain ⟨rs, mid, ss, hrs, hss, rfl⟩ := Lexeme.matchAll_append.mp hruns
      rw [List.flatten_append, hc.consumes_append_iff] at hd
      obtain ⟨m, hm, hd⟩ := hd
      obtain rfl : mid = m.rest := List.append_cancel_left (hrs.text_eq.symm.trans hm.rest)
      refine ⟨m, (hp.succeeds hc).mpr ⟨rs, hrs, hm, ?_⟩,
        (hq.succeeds (hm.wellFormed hc)).mpr ⟨ss, hss, hd, ?_⟩⟩
      · rw [← hrs.length_eq, List.take_left]
      · rw [← hrs.length_eq, List.drop_left]
  fails {c d e} hc := by
    rw [fails_zip, hp.fails hc, Lexeme.firstRefuses_append, or_and_right]
    refine or_congr_right (and_congr_left fun _ ↦ ⟨?_, ?_⟩)
    · rintro ⟨a, m, _, ha, he⟩
      obtain ⟨rs, hrs, hm, -⟩ := (hp.succeeds hc).mp ha
      exact ⟨rs, _, hrs, ((hq.fails (hm.wellFormed hc)).mp he).1⟩
    · rintro ⟨rs, mid, hrs, he⟩
      obtain ⟨m, hm, rfl, ha⟩ := hp.exists_succeeds hc hrs
      exact ⟨_, m, m, ha, (hq.fails (hm.wellFormed hc)).mpr ⟨he, rfl⟩⟩

/-! ### Runs -/

theorem run_eq_ok {t rest : Text} {a : α} :
    (p.run t).map Reply.outcome = some (.ok (a, rest)) ↔
      ∃ d, p.Succeeds (.start t) a d ∧ d.rest = rest := by
  constructor
  · intro h
    rw [run_eq] at h
    rcases hp : p.parse (.start t) with _ | ⟨_ | b, d, es⟩
    · simp [hp] at h
    · simp [hp] at h
    · simp only [hp, Option.map_some, Option.some.injEq, Except.ok.injEq, Prod.mk.injEq] at h
      obtain ⟨rfl, rfl⟩ := h
      exact ⟨d, ⟨es, hp⟩, rfl⟩
  · rintro ⟨d, h, rfl⟩
    exact h.run

theorem run_eq_error {t : Text} {e : Failure} :
    (p.run t).map Reply.outcome = some (.error e) ↔ ∃ d, p.Fails (.start t) e d := by
  rw [run_eq]
  simp only [Fails]
  rcases p.parse (.start t) with _ | ⟨_ | b, d, es⟩ <;> simp

theorem Reads.run_eq_ok (hp : p.Reads ls f) {t rest : Text} {a : α} (ht : t.Addressable) :
    (p.run t).map Reply.outcome = some (.ok (a, rest)) ↔
      ∃ runs, Lexeme.MatchAll ls t runs rest ∧ a = f runs := by
  have hstart := Cursor.wellFormed_start ht
  rw [Parser.run_eq_ok]
  constructor
  · rintro ⟨d, h, rfl⟩
    obtain ⟨runs, hruns, -, ha⟩ := (hp.succeeds hstart).mp h
    rw [Cursor.rest_start] at hruns
    exact ⟨runs, hruns, ha⟩
  · rintro ⟨runs, hruns, rfl⟩
    rw [← Cursor.rest_start t] at hruns
    obtain ⟨d, -, hrest, h⟩ := hp.exists_succeeds hstart hruns
    exact ⟨d, h, hrest⟩

theorem Reads.run_eq_error (hp : p.Reads ls f) {t : Text} {e : Failure} (ht : t.Addressable) :
    (p.run t).map Reply.outcome = some (.error e) ↔ Lexeme.FirstRefuses ls t e := by
  rw [Parser.run_eq_error]
  simp only [hp.fails (Cursor.wellFormed_start ht), Cursor.rest_start, exists_eq_right]

end Parser

end Backtrack
