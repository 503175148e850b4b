import Backtrack.Proofs.Failure.Furthest
import Backtrack.Proofs.Grammar.Depth
import Backtrack.Proofs.Parser.Boolean
import Backtrack.Proofs.Parser.Ends
import Backtrack.Proofs.Parser.Lexemes
import Backtrack.Value.Transform

/-!
# Nested brackets

A value is a truth value, a number, or a value in brackets.  As a rule that names itself this
reads any number of opening brackets, a truth value or number, and as many closing brackets
(`Grammar.brackets_accepted`).  Every level of the nesting tries all three alternatives before it
fails, so a failure is a tree as deep as the nesting.  Its likely cause is the innermost one all
the same: an attempt that went through more brackets got further, and among those that got
equally far the bracket is tried last.
-/

namespace Backtrack

/-! ## Atoms -/

/-- The text starts with a truth value or a number.  This is its one written form, and what comes
after it. -/
inductive Atom (t : Text) : Text → Text → Prop
  | truth {b : Bool} {x after : Text} :
      (b, x) ∈ Parser.truthSpellings → t = x ++ after →
        Atom t (if b then "true".toList else "false".toList) after
  | number {n : Int64} {after : Text} :
      (Parser.integer.run t).map Reply.outcome = some (.ok (n, after)) →
        Atom t (Numeral.signed n.toInt) after

/-- An atom starts with a numeral or with the first letter of a truth value. -/
theorem not_atom_cons {x : Char} {t w u : Text} (hnumeric : Text.isNumeric x = false)
    (hletter : ∀ s ∈ Parser.truthSpellings, s.2.head? ≠ some x) : ¬ Atom (x :: t) w u := by
  intro h
  cases h with
  | @truth b y _ hy ht =>
      obtain ⟨z, y, rfl⟩ := List.exists_cons_of_ne_nil (Parser.truthSpellings_ne_nil _ hy)
      cases ht
      exact hletter _ hy rfl
  | number h =>
      obtain ⟨d, h, -⟩ := Parser.run_eq_ok.mp h
      obtain ⟨y, hy, hnumeric'⟩ := h.head_numeric
      rw [Cursor.rest_start] at hy
      cases hy
      rw [hnumeric] at hnumeric'
      cases hnumeric'

/-! ## One level -/

namespace Parser

variable {inner : Parser Value} {c d m : Cursor} {t u w r x : Text} {v : Value} {e : Failure}

/-- An opening bracket, what `inner` reads, and a closing bracket. -/
def enclosed (inner : Parser Value) : Parser Value :=
  (((spelled (Value.unit, ['['])).zip3 inner (spelled (Value.unit, [']']))).map
    fun v ↦ Value.tuple [v.1, v.2.1, v.2.2]).map fun v ↦ (v.item 1).wrapped ['['] [']']

/-- A truth value, a number, or what `inner` reads in brackets. -/
def bracketed (inner : Parser Value) : Parser Value :=
  choice ((boolean.map .bool).map Value.written)
    [(integer.map .int).map Value.written, enclosed inner]

theorem succeeds_enclosed (hc : c.WellFormed) (hm : c.Consumes ['['] m)
    (h : inner.Succeeds m (.str w) d) (hd : d.WellFormed) {d' : Cursor}
    (hd' : d.Consumes [']'] d') : (enclosed inner).Succeeds c (.str (['['] ++ w ++ [']'])) d' := by
  have hopen : (spelled (Value.unit, ['['])).Succeeds c .unit m :=
    (succeeds_spelled hc).mpr ⟨rfl, hm⟩
  have hclose : (spelled (Value.unit, [']'])).Succeeds d .unit d' :=
    (succeeds_spelled hd).mpr ⟨rfl, hd'⟩
  have hall : ((spelled (Value.unit, ['['])).zip3 inner (spelled (Value.unit, [']']))).Succeeds c
      (.unit, .str w, .unit) d' :=
    succeeds_zip.mpr ⟨m, hopen, succeeds_zip.mpr ⟨d, h, hclose⟩⟩
  exact succeeds_map.mpr ⟨_, succeeds_map.mpr ⟨_, hall, rfl⟩, rfl⟩

theorem fails_unopened (h : ¬ ['['] <+: c.rest) :
    (enclosed inner).Fails c (.missingLiteral ['['] c.rest) c := by
  rw [enclosed, fails_map, fails_map, zip3, fails_zip]
  exact .inl (fails_spelled.mpr ⟨h, rfl, rfl⟩)

/-- After the opening bracket, the failure is that of the other two parts. -/
theorem fails_enclosed (hc : c.WellFormed) (hm : c.Consumes ['['] m)
    (h : (∃ stop, inner.Fails m e stop) ∨
      ∃ v d, inner.Succeeds m v d ∧ ¬ [']'] <+: d.rest ∧ e = .missingLiteral [']'] d.rest) :
    (enclosed inner).Fails c e c := by
  have hopen : (spelled (Value.unit, ['['])).Succeeds c .unit m :=
    (succeeds_spelled hc).mpr ⟨rfl, hm⟩
  rw [enclosed, fails_map, fails_map, zip3, fails_zip]
  have hrest : ∃ stop, (inner.zip (spelled (Value.unit, [']']))).Fails m e stop := by
    rcases h with ⟨stop, h⟩ | ⟨v, d, h, hd, rfl⟩
    · exact ⟨stop, fails_zip.mpr (.inl h)⟩
    · exact ⟨m, fails_zip.mpr (.inr ⟨⟨v, d, d, h, fails_spelled.mpr ⟨hd, rfl, rfl⟩⟩, rfl⟩)⟩
  obtain ⟨stop, hrest⟩ := hrest
  exact .inr ⟨⟨_, m, stop, hopen, hrest⟩, rfl⟩

/-- What starts with a number does not start with a truth value. -/
theorem fails_boolean_of_integer {n : Int64} (h : integer.Succeeds c n d) :
    ∃ e, boolean.Fails c e c := by
  have hletter : ∀ s ∈ truthSpellings, s.2.head?.map Text.isNumeric = some false := by decide
  refine ⟨_, fails_boolean.mpr ⟨?_, rfl, rfl⟩⟩
  rintro s hs ⟨u, hu⟩
  obtain ⟨x, hx, hnumeric⟩ := h.head_numeric
  obtain ⟨y, hy, hnumeric'⟩ := Option.map_eq_some_iff.mp (hletter s hs)
  obtain ⟨v, hv⟩ := List.head?_eq_some_iff.mp hy
  rw [← hu, hv] at hx
  cases hx
  rw [hnumeric'] at hnumeric
  cases hnumeric

theorem succeeds_atom (inner : Parser Value) (hc : c.WellFormed) (h : Atom c.rest w u) :
    ∃ d, c.Reaches d ∧ d.rest = u ∧ (bracketed inner).Succeeds c (.str w) d := by
  cases h with
  | @truth b x _ hx hrest =>
      have hd := hc.consumes_advance hrest
      have hb : boolean.Succeeds c b (c.advance x.byteSize) :=
        (succeeds_boolean hc).mpr ⟨x, hx, hd⟩
      refine ⟨_, hc.reaches_advance _, List.append_cancel_left (hd.rest.symm.trans hrest), ?_⟩
      exact succeeds_choice.mpr (.head (succeeds_map.mpr
        ⟨_, succeeds_map.mpr ⟨b, hb, rfl⟩, rfl⟩))
  | @number n _ hn =>
      obtain ⟨runs, hruns, rfl⟩ := (reads_integer.run_eq_ok hc.addressable_rest).mp hn
      obtain ⟨d, hd, hrest, h⟩ := reads_integer.exists_succeeds hc hruns
      obtain ⟨e, hf⟩ := fails_boolean_of_integer h
      refine ⟨d, hc.reaches_iff.mpr ⟨_, hd⟩, hrest, ?_⟩
      refine succeeds_choice.mpr (.tail (fails_map.mpr (fails_map.mpr hf)) (.head ?_))
      exact succeeds_map.mpr ⟨_, succeeds_map.mpr ⟨_, h, rfl⟩, rfl⟩

theorem fails_of_no_atom (hc : c.WellFormed) (h : ∀ w u, ¬ Atom c.rest w u) :
    (∃ e y, boolean.Fails c e c ∧ e.likely = .missingLiteral y c.rest) ∧
      ∃ digits, integer.Fails c (.notNumber digits c.rest) c := by
  constructor
  · have hnone : ∀ s ∈ truthSpellings, ¬ s.2 <+: c.rest := by
      rintro s hs ⟨u, hu⟩
      exact h _ u (.truth hs hu.symm)
    have hne : (truthSpellings.map fun s ↦ Failure.missingLiteral s.2 c.rest) ≠ [] := by
      simp [truthSpellings]
    obtain ⟨a, ha, hlikely⟩ := Failure.exists_likely_noAlternative c.rest hne
    obtain ⟨s, -, rfl⟩ := List.mem_map.mp ha
    exact ⟨_, s.2, fails_boolean.mpr ⟨hnone, rfl, rfl⟩, hlikely⟩
  · rcases ends_iff.mp (ends_integer (c := c)) with ⟨n, d, hn⟩ | ⟨e, d, he⟩
    · obtain ⟨runs, hruns, -, hvalue⟩ := (reads_integer.succeeds hc).mp hn
      exact absurd (.number ((reads_integer.run_eq_ok hc.addressable_rest).mpr
        ⟨runs, hruns, hvalue⟩)) (h _ _)
    · obtain ⟨-, rfl, rfl⟩ := fails_integer.mp he
      exact ⟨_, he⟩

theorem succeeds_bracketed (hc : c.WellFormed) (h : ∀ w u, ¬ Atom c.rest w u)
    (hv : (enclosed inner).Succeeds c v d) : (bracketed inner).Succeeds c v d := by
  obtain ⟨⟨e₁, _, h₁, -⟩, digits, h₂⟩ := fails_of_no_atom hc h
  exact succeeds_choice.mpr (.tail (fails_map.mpr (fails_map.mpr h₁))
    (.tail (fails_map.mpr (fails_map.mpr h₂)) (.head hv)))

/-- Without an atom, the likely cause is that of the value in brackets, which is tried last. -/
theorem fails_bracketed (hc : c.WellFormed) (h : ∀ w u, ¬ Atom c.rest w u)
    (he : ∃ stop, (enclosed inner).Fails c e stop) (hl : e.likely = .missingLiteral x r)
    (hr : r <:+ c.rest) :
    ∃ e', (bracketed inner).Fails c e' c ∧ e'.likely = .missingLiteral x r := by
  obtain ⟨⟨e₁, y, h₁, hl₁⟩, digits, h₂⟩ := fails_of_no_atom hc h
  have hall : AllFail c [(boolean.map .bool).map Value.written,
      (integer.map .int).map Value.written, enclosed inner]
      ([e₁, .notNumber digits c.rest] ++ [e]) :=
    .cons ⟨c, fails_map.mpr (fails_map.mpr h₁)⟩
      (.cons ⟨c, fails_map.mpr (fails_map.mpr h₂)⟩ (.cons he .nil))
  refine ⟨_, fails_choice.mpr ⟨⟨_, hall, rfl⟩, rfl⟩, ?_⟩
  rw [Failure.likely_exhausted_concat, hl]
  · intro s hs
    rcases List.mem_append.mp hs with hs | hs
    · rcases List.mem_pair.mp hs with hs | hs
      · exact Failure.ne_noAlternative_nil_of_kind_likely (by simp [hl₁, Failure.kind]) hs.symm
      · cases hs
    · exact Failure.ne_noAlternative_nil_of_kind_likely (by simp [hl, Failure.kind])
        (List.mem_singleton.mp hs).symm
  · -- None of the others was further than its start.
    have hstays : ∀ {a : Failure}, a.rest? = some c.rest → ¬ e.likely.progress < a.progress :=
      fun ha ↦ Failure.not_progress_lt (by rw [hl]; rfl) ha hr hc.addressable_rest
    intro a ha
    rcases List.mem_pair.mp ha with rfl | rfl
    · exact hstays (by rw [hl₁]; rfl)
    · exact hstays rfl

end Parser

/-! ## All levels -/

namespace Text

/-- A text starts with `k` copies of a character, or with fewer and then none. -/
theorem exists_replicate_or (x : Char) (k : Nat) (t : Text) :
    (∃ rest, t = List.replicate k x ++ rest) ∨
      ∃ j rest, j < k ∧ t = List.replicate j x ++ rest ∧ rest.head? ≠ some x := by
  induction k generalizing t with
  | zero => exact .inl ⟨t, rfl⟩
  | succ k ih =>
      by_cases hx : t.head? = some x
      · obtain ⟨u, rfl⟩ := List.head?_eq_some_iff.mp hx
        rcases ih u with ⟨rest, rfl⟩ | ⟨j, rest, hj, rfl, hrest⟩
        · exact .inl ⟨rest, rfl⟩
        · exact .inr ⟨j + 1, rest, Nat.succ_lt_succ hj, rfl, hrest⟩
      · exact .inr ⟨0, t, Nat.succ_pos k, rfl, hx⟩

/-- The number of opening brackets at the start of the text. -/
def openings (t : Text) : Nat := (t.takeWhile (· = '[')).length

/-- What comes after the opening brackets at the start of the text. -/
def inside (t : Text) : Text := t.dropWhile (· = '[')

theorem eq_openings_append (t : Text) : t = List.replicate t.openings '[' ++ t.inside := by
  have hall : t.takeWhile (· = '[') = List.replicate t.openings '[' := by
    refine List.eq_replicate_of_mem fun y hy ↦ ?_
    simpa using List.all_eq_true.mp List.all_takeWhile y hy
  rw [← hall]
  exact List.takeWhile_append_dropWhile.symm

theorem head?_inside (t : Text) : t.inside.head? ≠ some '[' := by
  intro h
  have hrefused := head?_dropWhile_refused h
  simp at hrefused

end Text

namespace Grammar

/-- A truth value, a number, or the rule in brackets. -/
def brackets (name : String) : Grammar :=
  .choice (.map .boolean Value.written)
    [.map .integer Value.written,
      .map (.zip3 (.literal ['[']) (.rule name) (.literal [']'])) fun v ↦
        (v.item 1).wrapped ['['] [']']]

variable {rules : Rules} {name : String} {c : Cursor} {t w rest : Text} {depth j k : Nat}

theorem parser_brackets (rules : Rules) (name : String) (depth : Nat) :
    (brackets name).parser rules depth = .bracketed (rules.parser depth name) := rfl

/-- The rule is unfolded once for each level. -/
theorem parser_brackets_succ (hrule : rules name = brackets name) (depth : Nat) :
    (brackets name).parser rules (depth + 1) =
      .bracketed ((brackets name).parser rules depth) := by
  change Parser.bracketed ((rules name).parser rules depth) = _
  rw [hrule]

/-- An opening bracket is no atom, so what follows it is read on the next level. -/
theorem exists_enclosed (hc : c.WellFormed) (hrest : c.rest = List.replicate (k + 1) '[' ++ t) :
    (∀ w u, ¬ Atom c.rest w u) ∧
      ∃ m, c.Consumes ['['] m ∧ m.WellFormed ∧ m.rest = List.replicate k '[' ++ t := by
  have hm := hc.consumes_advance (t := ['[']) hrest
  constructor
  · intro w u
    rw [hrest]
    exact not_atom_cons (by decide) (by decide)
  · exact ⟨_, hm, hm.wellFormed hc, List.append_cancel_left (hm.rest.symm.trans hrest)⟩

theorem succeeds_brackets (hrule : rules name = brackets name) (hc : c.WellFormed)
    (hdepth : k ≤ depth) (hrest : c.rest = List.replicate k '[' ++ t)
    (hatom : Atom t w (List.replicate k ']' ++ rest)) :
    ∃ d, c.Reaches d ∧ d.rest = rest ∧ ((brackets name).parser rules depth).Succeeds c
      (.str (List.replicate k '[' ++ w ++ List.replicate k ']')) d := by
  induction k generalizing c depth rest with
  | zero =>
      obtain rfl : c.rest = t := hrest
      obtain ⟨d, hd, hleft, h⟩ := Parser.succeeds_atom (rules.parser depth name) hc hatom
      refine ⟨d, hd, hleft, ?_⟩
      simpa [parser_brackets] using h
  | succ k ih =>
      obtain ⟨n, rfl⟩ : ∃ n, depth = n + 1 := ⟨depth - 1, by omega⟩
      have hn : k ≤ n := by omega
      obtain ⟨hnone, m, hm, hmc, hinner⟩ := exists_enclosed hc hrest
      -- The closing bracket of this level comes after those of the levels inside.
      rw [List.replicate_succ', List.append_assoc] at hatom
      obtain ⟨d, hd, hleft, h⟩ := ih hmc hn hinner hatom
      have hclose := hd.wellFormed.consumes_advance (t := [']']) hleft
      have hwhole := Parser.succeeds_enclosed hc hm h hd.wellFormed hclose
      have hvalue : ['['] ++ (List.replicate k '[' ++ w ++ List.replicate k ']') ++ [']'] =
          List.replicate (k + 1) '[' ++ w ++ List.replicate (k + 1) ']' := by
        rw [List.replicate_succ (a := '['), List.replicate_succ' (a := ']')]
        simp
      rw [hvalue] at hwhole
      refine ⟨_, hc.reaches_iff.mpr ?_, List.append_cancel_left (hclose.rest.symm.trans hleft), ?_⟩
      · obtain ⟨s, hs⟩ := hmc.reaches_iff.mp hd
        exact ⟨_, hm.append (hs.append hclose)⟩
      · rw [parser_brackets_succ hrule]
        exact Parser.succeeds_bracketed hc hnone hwhole

/-- Without an atom inside, the likely cause is that no further bracket is opened there. -/
theorem fails_brackets_inside (hrule : rules name = brackets name) (hc : c.WellFormed)
    (hdepth : k ≤ depth) (hrest : c.rest = List.replicate k '[' ++ t) (ht : t.head? ≠ some '[')
    (hnone : ∀ w u, ¬ Atom t w u) :
    ∃ e, ((brackets name).parser rules depth).Fails c e c ∧
      e.likely = .missingLiteral ['['] t := by
  induction k generalizing c depth with
  | zero =>
      obtain rfl : c.rest = t := hrest
      have hopen : ¬ ['['] <+: c.rest := by
        rintro ⟨u, hu⟩
        exact ht (by rw [← hu]; rfl)
      exact Parser.fails_bracketed hc hnone ⟨c, Parser.fails_unopened hopen⟩ rfl
        (List.suffix_refl _)
  | succ k ih =>
      obtain ⟨n, rfl⟩ : ∃ n, depth = n + 1 := ⟨depth - 1, by omega⟩
      have hn : k ≤ n := by omega
      obtain ⟨hbracket, m, hm, hmc, hinner⟩ := exists_enclosed hc hrest
      obtain ⟨e, h, hlikely⟩ := ih hmc hn hinner
      rw [parser_brackets_succ hrule]
      refine Parser.fails_bracketed hc hbracket
        ⟨c, Parser.fails_enclosed hc hm (.inl ⟨m, h⟩)⟩ hlikely ?_
      rw [hrest]
      exact List.suffix_append _ _

/-- With too few closing brackets, the likely cause is that the next one is missing. -/
theorem fails_brackets_after (hrule : rules name = brackets name) (hc : c.WellFormed)
    (hdepth : k ≤ depth) (hrest : c.rest = List.replicate k '[' ++ t)
    (hatom : Atom t w (List.replicate j ']' ++ rest)) (hj : j < k)
    (hnext : rest.head? ≠ some ']') :
    ∃ e, ((brackets name).parser rules depth).Fails c e c ∧
      e.likely = .missingLiteral [']'] rest ∧ rest <:+ c.rest := by
  induction k generalizing c depth with
  | zero => exact absurd hj (Nat.not_lt_zero j)
  | succ k ih =>
      obtain ⟨n, rfl⟩ : ∃ n, depth = n + 1 := ⟨depth - 1, by omega⟩
      have hn : k ≤ n := by omega
      obtain ⟨hbracket, m, hm, hmc, hinner⟩ := exists_enclosed hc hrest
      have hsuffix : m.rest <:+ c.rest := ⟨_, hm.rest.symm⟩
      rw [parser_brackets_succ hrule]
      rcases Nat.lt_succ_iff_lt_or_eq.mp hj with hlt | rfl
      · obtain ⟨e, h, hlikely, hleft⟩ := ih hmc hn hinner hlt
        obtain ⟨e', h', hlikely'⟩ := Parser.fails_bracketed hc hbracket
          ⟨c, Parser.fails_enclosed hc hm (.inl ⟨m, h⟩)⟩ hlikely (hleft.trans hsuffix)
        exact ⟨e', h', hlikely', hleft.trans hsuffix⟩
      · -- This is the level that is not closed.
        obtain ⟨d, hd, rfl, h⟩ := succeeds_brackets hrule hmc hn hinner hatom
        have hclose : ¬ [']'] <+: d.rest := by
          rintro ⟨u, hu⟩
          exact hnext (by rw [← hu]; rfl)
        have hleft := hd.rest_suffix.trans hsuffix
        obtain ⟨e', h', hlikely'⟩ := Parser.fails_bracketed hc hbracket
          ⟨c, Parser.fails_enclosed hc hm (.inr ⟨_, d, h, hclose, rfl⟩)⟩ rfl hleft
        exact ⟨e', h', hlikely', hleft⟩

/-- On every text the rule comes to an end, to a depth of as many levels as there are opening
brackets at the start.  It succeeds exactly if an atom follows and then at least as many closing
brackets.  The value is then the written form of the atom in these brackets, and what comes after
them is left.  Without an atom, the likely cause of the failure is that no bracket is opened in
its place; with too few closing brackets, it is that the first one of those that lack is
missing. -/
theorem brackets_accepted (hrule : rules name = brackets name) {s : Text} (hs : s.Addressable)
    (hdepth : s.openings ≤ depth) :
    let outcome := (((brackets name).parser rules depth).run s).map Reply.outcome
    let closing := List.replicate s.openings ']'
    outcome ≠ none ∧
      ((∃ v rest, outcome = some (.ok (v, rest))) ↔
        ∃ w u, Atom s.inside w u ∧ closing <+: u) ∧
      (∀ w rest, Atom s.inside w (closing ++ rest) → outcome =
        some (.ok (.str (List.replicate s.openings '[' ++ w ++ closing), rest))) ∧
      ((∀ w u, ¬ Atom s.inside w u) → ∃ e, outcome = some (.error e) ∧
        e.likely = .missingLiteral ['['] s.inside) ∧
      ∀ w j u, Atom s.inside w (List.replicate j ']' ++ u) → j < s.openings →
        u.head? ≠ some ']' → ∃ e, outcome = some (.error e) ∧
          e.likely = .missingLiteral [']'] u := by
  intro outcome closing
  have hc := Cursor.wellFormed_start hs
  have hrest : (Cursor.start s).rest = List.replicate s.openings '[' ++ s.inside :=
    (Cursor.rest_start s).trans s.eq_openings_append
  have hsucceeds : ∀ w rest, Atom s.inside w (closing ++ rest) → outcome =
      some (.ok (.str (List.replicate s.openings '[' ++ w ++ closing), rest)) := by
    intro w rest hatom
    obtain ⟨d, -, hleft, h⟩ := succeeds_brackets hrule hc hdepth hrest hatom
    exact Parser.run_eq_ok.mpr ⟨d, h, hleft⟩
  have hinside : (∀ w u, ¬ Atom s.inside w u) → ∃ e, outcome = some (.error e) ∧
      e.likely = .missingLiteral ['['] s.inside := by
    intro hnone
    obtain ⟨e, h, hlikely⟩ := fails_brackets_inside hrule hc hdepth hrest s.head?_inside hnone
    exact ⟨e, Parser.run_eq_error.mpr ⟨_, h⟩, hlikely⟩
  have hafter : ∀ w j u, Atom s.inside w (List.replicate j ']' ++ u) → j < s.openings →
      u.head? ≠ some ']' → ∃ e, outcome = some (.error e) ∧
        e.likely = .missingLiteral [']'] u := by
    intro w j u hatom hj hnext
    obtain ⟨e, h, hlikely, -⟩ := fails_brackets_after hrule hc hdepth hrest hatom hj hnext
    exact ⟨e, Parser.run_eq_error.mpr ⟨_, h⟩, hlikely⟩
  -- These three are all the cases there are.
  have hcases : (∃ w rest, Atom s.inside w (closing ++ rest)) ∨ ∃ e, outcome = some (.error e) := by
    by_cases hatom : ∃ w u, Atom s.inside w u
    · obtain ⟨w, u, hatom⟩ := hatom
      rcases u.exists_replicate_or ']' s.openings with ⟨rest, rfl⟩ | ⟨j, rest, hj, rfl, hnext⟩
      · exact .inl ⟨w, rest, hatom⟩
      · obtain ⟨e, h, -⟩ := hafter w j rest hatom hj hnext
        exact .inr ⟨e, h⟩
    · obtain ⟨e, h, -⟩ := hinside fun w u h ↦ hatom ⟨w, u, h⟩
      exact .inr ⟨e, h⟩
  refine ⟨?_, ⟨?_, ?_⟩, hsucceeds, hinside, hafter⟩
  · rcases hcases with ⟨w, rest, hatom⟩ | ⟨e, he⟩
    · simp [hsucceeds w rest hatom]
    · simp [he]
  · rintro ⟨v, rest, h⟩
    rcases hcases with ⟨w, rest, hatom⟩ | ⟨e, he⟩
    · exact ⟨w, _, hatom, List.prefix_append closing rest⟩
    · rw [he] at h
      cases h
  · rintro ⟨w, _, hatom, rest, rfl⟩
    exact ⟨_, rest, hsucceeds w rest hatom⟩

/-- Two brackets around a truth value and more than two that close; two around a number and one
that closes; and two around nothing that could be read, before a letter of two bytes. -/
theorem brackets_accepted_two :
    let rules : Rules := fun _ ↦ brackets "value"
    let outcome : Text → Option (Except Failure (Value × Text)) := fun s ↦
      (((brackets "value").parser rules 2).run s).map Reply.outcome
    rules "value" = brackets "value" ∧
      outcome "[[True]]]".toList = some (.ok (.str "[[true]]".toList, [']'])) ∧
      (∃ e, outcome "[[007]é]".toList = some (.error e) ∧
        e.likely = .missingLiteral [']'] ['é', ']']) ∧
      ∃ e, outcome "[[é]]".toList = some (.error e) ∧
        e.likely = .missingLiteral ['['] ['é', ']', ']'] := by
  intro rules outcome
  have hrule : rules "value" = brackets "value" := rfl
  have htrue : Atom "True]]]".toList "true".toList "]]]".toList :=
    .truth (b := true) (x := "True".toList) (by decide) rfl
  have hnumber : Atom "007]é]".toList "7".toList "]é]".toList := .number (n := 7) (by decide)
  have hnone : ∀ w u, ¬ Atom "é]]".toList w u := fun _ _ ↦ not_atom_cons (by decide) (by decide)
  obtain ⟨-, -, hread, -⟩ := brackets_accepted hrule
    (show Text.Addressable "[[True]]]".toList by decide) (show _ ≤ 2 by decide)
  obtain ⟨-, -, -, -, hafter⟩ := brackets_accepted hrule
    (show Text.Addressable "[[007]é]".toList by decide) (show _ ≤ 2 by decide)
  obtain ⟨-, -, -, hinside, -⟩ := brackets_accepted hrule
    (show Text.Addressable "[[é]]".toList by decide) (show _ ≤ 2 by decide)
  exact ⟨hrule, hread _ _ htrue, hafter _ 1 _ hnumber (by decide) (by decide), hinside hnone⟩

end Grammar

end Backtrack
