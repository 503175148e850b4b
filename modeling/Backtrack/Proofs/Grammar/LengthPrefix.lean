import Backtrack.Grammar.Binder
import Backtrack.Proofs.Grammar.Chain
import Backtrack.Session
import Backtrack.Value.Transform

/-!
# Fields with their length in front

A field is written as its length in bytes, a colon, and its text.  Reading it back is a sequence
whose second part depends on the value of the first: the number says how much is taken, whatever
the taken text looks like.  So fields can stand one after the other without anything between
them, and are read back one by one (`Grammar.lengthPrefixed_reads_back`).
-/

namespace Backtrack

/-! ## Taking an exact number of bytes -/

namespace Script

variable {α β : Type} {c d : Cursor} {t : Text} {n : Int}

theorem toParser_map (s : Script α) (f : α → β) : (s.map f).toParser = s.toParser.map f := by
  ext1
  funext c
  rw [Parser.parse_map, parse_toParser, parse_toParser, run_map]
  rcases s.run c with ⟨_ | a, d⟩ <;> rfl

/-- What is cut off by a number of bytes is the beginning of just this size. -/
theorem cut_eq_some {u : Text} : (if n < 0 then none else u.takeBytes? n.toNat) = some t ↔
    t <+: u ∧ (t.byteSize : Int) = n := by
  split
  · constructor
    · rintro ⟨⟩
    · rintro ⟨-, hn⟩
      omega
  · rw [Text.takeBytes?_eq_some]
    constructor
    · rintro ⟨⟨q, rfl⟩, hn⟩
      exact ⟨List.prefix_append _ _, by omega⟩
    · rintro ⟨⟨q, rfl⟩, hn⟩
      exact ⟨⟨q, rfl⟩, by omega⟩

theorem succeeds_field (hc : c.WellFormed) :
    (field n).toParser.Succeeds c t d ↔ (t.byteSize : Int) = n ∧ c.Consumes t d := by
  rw [Parser.Succeeds, parse_toParser, field, run]
  constructor
  · rintro ⟨es, h⟩
    split at h
    · next u hu =>
        obtain ⟨hstarts, hn⟩ := cut_eq_some.mp hu
        cases h
        exact ⟨hn, (hc.consumes_iff hstarts).mpr rfl⟩
    · cases h
  · rintro ⟨hn, hd⟩
    have hstarts : t <+: c.rest := ⟨d.rest, hd.rest.symm⟩
    obtain rfl := (hc.consumes_iff hstarts).mp hd
    refine ⟨[], ?_⟩
    rw [cut_eq_some.mpr ⟨hstarts, hn⟩]
    rfl

theorem fails_field {e : Failure} :
    (field n).toParser.Fails c e d ↔ (∀ t : Text, t <+: c.rest → (t.byteSize : Int) ≠ n) ∧
      e = .rejected "field is shorter than its length".toList c.rest ∧ d = c := by
  rw [Parser.Fails, parse_toParser, field, run]
  constructor
  · rintro ⟨es, h⟩
    split at h
    · cases h
    · next hnone =>
        cases h
        refine ⟨fun t ht hn ↦ ?_, rfl, rfl⟩
        rw [cut_eq_some.mpr ⟨ht, hn⟩] at hnone
        cases hnone
  · rintro ⟨hno, rfl, rfl⟩
    refine ⟨[], ?_⟩
    split
    · next u hu =>
        obtain ⟨hstarts, hn⟩ := cut_eq_some.mp hu
        exact absurd hn (hno u hstarts)
    · rfl

end Script

/-- A text with its length in bytes and a colon in front. -/
def Text.lengthPrefixed (s : Text) : Text := Numeral.decimal s.byteSize ++ ':' :: s

/-! ## Reading back one by one -/

/-- One or more values, as pairs that are nested to the right. -/
def Value.chain (v : Value) : List Value → Value
  | [] => v
  | w :: ws => .tuple [v, chain w ws]

namespace Grammar

variable {rules : Rules} {depth : Nat} {c d : Cursor}

section

variable {α : Type} {g : Grammar} {write : α → Text} {value : α → Value}

/-- The grammar reads back what is written, in front of anything. -/
def ReadsBack (rules : Rules) (g : Grammar) (write : α → Text) (value : α → Value) : Prop :=
  ∀ ⦃c d : Cursor⦄ (a : α) (depth : Nat), c.WellFormed → c.Consumes (write a) d →
    (g.parser rules depth).Succeeds c (value a) d

/-- A session that parses once for each of them reads back what is written one after the
other. -/
theorem ReadsBack.run (hg : ReadsBack rules g write value) (hc : c.WellFormed) {as : List α}
    (hd : c.Consumes (as.flatMap write) d) (saved : List (String × Cursor)) :
    ∃ answers, Session.run rules depth ⟨c, saved⟩ (List.replicate as.length (.parse g)) =
        some (⟨d, saved⟩, answers) ∧
      answers.map Session.Answer.result = as.map fun a ↦ some (.ok (value a)) := by
  induction as generalizing c with
  | nil =>
      obtain rfl : d = c := Cursor.ext hd.source hd.position
      exact ⟨[], rfl, rfl⟩
  | cons a as ih =>
      rw [List.flatMap_cons, hc.consumes_append_iff] at hd
      obtain ⟨m, hm, hd⟩ := hd
      obtain ⟨es, hstep⟩ := hg a depth hc hm
      obtain ⟨answers, hrun, hanswers⟩ := ih (hm.wellFormed hc) hd
      refine ⟨⟨some (.ok (value a)), m, es⟩ :: answers, ?_, ?_⟩
      · rw [List.length_cons, List.replicate_succ]
        simp [Session.run, Session.step, Session.moveTo, hstep, hrun]
      · rw [List.map_cons, List.map_cons, hanswers]

/-- A chain of one grammar reads it back too. -/
theorem ReadsBack.chain (hg : ReadsBack rules g write value) (hc : c.WellFormed) {a : α}
    {as : List α} (hd : c.Consumes ((a :: as).flatMap write) d) :
    ((Grammar.chain g (List.replicate as.length g)).parser rules depth).Succeeds c
      ((value a).chain (as.map value)) d := by
  induction as generalizing c a with
  | nil =>
      rw [List.flatMap_singleton] at hd
      exact hg a depth hc hd
  | cons b bs ih =>
      rw [List.flatMap_cons, hc.consumes_append_iff] at hd
      obtain ⟨m, hm, hd⟩ := hd
      have hboth := Parser.succeeds_zip (v := (value a, (value b).chain (bs.map value))).mpr
        ⟨m, hg a depth hc hm, ih (hm.wellFormed hc) hd⟩
      exact Parser.succeeds_map.mpr ⟨_, hboth, rfl⟩

end

/-! ## Fields -/

/-- A number and a colon. -/
def lengthPrefix : Grammar := .zip .integer (.literal [':'])

/-- A number, a colon, and as many bytes as the number says. -/
def lengthPrefixed : Grammar := .flatMap lengthPrefix fun v ↦ counted (v.item 0)

theorem matchAll_lengthPrefix {t rest : Text} {runs : List Text} :
    Lexeme.MatchAll [.number, .literal [':']] t runs rest ↔
      ∃ digits, Numeral.Representable digits ∧ runs = [digits, [':']] ∧
        t = digits ++ ':' :: rest := by
  constructor
  · intro h
    obtain ⟨digits, _, _, rfl, rfl, hdigits, h⟩ := h.exists_cons
    obtain ⟨_, _, _, rfl, rfl, hcolon, h⟩ := h.exists_cons
    cases h
    obtain ⟨-, rfl⟩ := Lexeme.matches_literal.mp hcolon
    exact ⟨digits, (Lexeme.matches_number_append.mp hdigits).1, rfl, rfl⟩
  · rintro ⟨digits, hdigits, rfl, rfl⟩
    refine .cons (Lexeme.matches_number_append.mpr ⟨hdigits, ?_⟩)
      (.cons (r := [':']) (.literal (List.prefix_append _ _)) .nil)
    rintro x ⟨⟩
    decide

theorem reads_lengthPrefix (rules : Rules) (depth : Nat) :
    (lengthPrefix.parser rules depth).Reads [.number, .literal [':']] fun runs ↦
      .tuple [.int (Int64.ofNat (Nat.ofDigitChars 10 ((runs.take 1).headD []) 0)), .unit] :=
  reads_zip (reads_integer depth) (reads_literal [':'] depth)

theorem succeeds_lengthPrefix (hc : c.WellFormed) {v : Value} :
    (lengthPrefix.parser rules depth).Succeeds c v d ↔ ∃ digits, Numeral.Representable digits ∧
      v = .tuple [.int (Int64.ofNat (Nat.ofDigitChars 10 digits 0)), .unit] ∧
        c.Consumes (digits ++ [':']) d := by
  rw [(reads_lengthPrefix rules depth).succeeds hc]
  constructor
  · rintro ⟨runs, hruns, hd, rfl⟩
    obtain ⟨digits, hdigits, rfl, -⟩ := matchAll_lengthPrefix.mp hruns
    exact ⟨digits, hdigits, rfl, by simpa using hd⟩
  · rintro ⟨digits, hdigits, rfl, hd⟩
    refine ⟨[digits, [':']], matchAll_lengthPrefix.mpr ⟨digits, hdigits, rfl, ?_⟩, ?_, rfl⟩
    · rw [hd.rest, List.append_assoc]
      rfl
    · simpa using hd

theorem parser_counted (n : Int64) :
    (counted (.int n)).parser rules depth = (Script.field n.toInt).toParser.map .str :=
  Script.toParser_map _ _

/-- A field is read where its length in digits, a colon and a text of this length come next, and
nowhere else. -/
theorem succeeds_lengthPrefixed (hc : c.WellFormed) {v : Value} :
    (lengthPrefixed.parser rules depth).Succeeds c v d ↔ ∃ digits s, v = .str s ∧
      Numeral.IsDigits digits ∧ Nat.ofDigitChars 10 digits 0 = s.byteSize ∧
        c.Consumes (digits ++ ':' :: s) d := by
  have hsplit : ∀ digits s : Text, digits ++ ':' :: s = digits ++ [':'] ++ s := by simp
  constructor
  · intro h
    obtain ⟨_, m, hlength, h⟩ := Parser.succeeds_flatMap.mp h
    obtain ⟨digits, hdigits, rfl, hm⟩ := (succeeds_lengthPrefix hc).mp hlength
    change ((counted (.int _)).parser rules depth).Succeeds m v d at h
    rw [parser_counted] at h
    obtain ⟨s, hs, rfl⟩ := Parser.succeeds_map.mp h
    obtain ⟨hsize, hd⟩ := (Script.succeeds_field (hm.wellFormed hc)).mp hs
    rw [hdigits.toInt_ofNat] at hsize
    exact ⟨digits, s, rfl, hdigits.isDigits, by omega, hsplit digits s ▸ hm.append hd⟩
  · rintro ⟨digits, s, rfl, hdigits, hsize, hd⟩
    rw [hsplit, hc.consumes_append_iff] at hd
    obtain ⟨m, hm, hd⟩ := hd
    -- The field is part of a text that fits in memory, so its length is in the range.
    have hfits : s.byteSize ≤ 0x7fffffffffffffff := by
      have haddressable := (hm.wellFormed hc).addressable_rest
      rw [hd.rest, Text.Addressable, Text.byteSize_append] at haddressable
      omega
    have hrange : Numeral.Representable digits := ⟨hdigits, by omega⟩
    refine Parser.succeeds_flatMap.mpr
      ⟨_, m, (succeeds_lengthPrefix hc).mpr ⟨digits, hrange, rfl, hm⟩, ?_⟩
    change ((counted (.int _)).parser rules depth).Succeeds m _ d
    rw [parser_counted]
    refine Parser.succeeds_map.mpr
      ⟨s, (Script.succeeds_field (hm.wellFormed hc)).mpr ⟨?_, hd⟩, rfl⟩
    rw [hrange.toInt_ofNat, hsize]

/-- Whatever fails, nothing stays consumed. -/
theorem fails_lengthPrefixed_restores {e : Failure}
    (h : (lengthPrefixed.parser rules depth).Fails c e d) : d = c := by
  rcases Parser.fails_flatMap.mp h with h | ⟨-, hd⟩
  · rcases Parser.fails_zip.mp (Parser.fails_map.mp h) with h | ⟨-, hd⟩
    · exact (Parser.fails_integer.mp (Parser.fails_map.mp h)).2.2
    · exact hd
  · exact hd

/-- A length that no beginning of what follows the colon has. -/
theorem fails_lengthPrefixed_short (hc : c.WellFormed) {digits after : Text}
    (hrest : c.rest = digits ++ ':' :: after) (hdigits : Numeral.Representable digits)
    (hshort : ∀ s : Text, s <+: after → s.byteSize ≠ Nat.ofDigitChars 10 digits 0) :
    (lengthPrefixed.parser rules depth).Fails c
      (.rejected "field is shorter than its length".toList after) c := by
  have hsplit : c.rest = (digits ++ [':']) ++ after := by simp [hrest]
  obtain ⟨m, hm, rfl⟩ : ∃ m, c.Consumes (digits ++ [':']) m ∧ m.rest = after :=
    ⟨_, hc.consumes_advance hsplit,
      List.append_cancel_left ((hc.consumes_advance hsplit).rest.symm.trans hsplit)⟩
  have hlength : (lengthPrefix.parser rules depth).Succeeds c _ m :=
    (succeeds_lengthPrefix hc).mpr ⟨digits, hdigits, rfl, hm⟩
  have hfield : ((counted (.int (Int64.ofNat (Nat.ofDigitChars 10 digits 0)))).parser rules
      depth).Fails m (.rejected "field is shorter than its length".toList m.rest) m := by
    rw [parser_counted, Parser.fails_map]
    refine Script.fails_field.mpr ⟨fun s hs ↦ ?_, rfl, rfl⟩
    rw [hdigits.toInt_ofNat]
    exact_mod_cast hshort s hs
  exact Parser.fails_flatMap.mpr (.inr ⟨⟨_, m, m, hlength, hfield⟩, rfl⟩)

/-! ## Reading fields back -/

theorem readsBack_lengthPrefixed : ReadsBack rules lengthPrefixed Text.lengthPrefixed .str :=
  fun _ _ s _ hc hd ↦ (succeeds_lengthPrefixed hc).mpr
    ⟨_, s, rfl, Numeral.isDigits_decimal _, Numeral.ofDigitChars_decimal _, hd⟩

/-- Fields that are written one after the other are read back one by one, by as many parses on
one cursor or as one chain, and what comes after them is left.  Conversely, what is read as a
field consists of digits, a colon and the field, and the digits denote the size of the field.  If
nothing of the denoted size follows the colon, the failure says so at this place.  After every
failure the cursor is where it was. -/
theorem lengthPrefixed_reads_back (hc : c.WellFormed) :
    (∀ (ss : List Text) rest, c.rest = ss.flatMap Text.lengthPrefixed ++ rest →
      ∃ d, c.Consumes (ss.flatMap Text.lengthPrefixed) d ∧ d.rest = rest ∧
        (∀ depth saved, ∃ answers,
          Session.run rules depth ⟨c, saved⟩
              (List.replicate ss.length (.parse lengthPrefixed)) =
            some (⟨d, saved⟩, answers) ∧
          answers.map Session.Answer.result = ss.map fun s ↦ some (.ok (.str s))) ∧
        ∀ s ss', ss = s :: ss' →
          (chain lengthPrefixed (List.replicate ss'.length lengthPrefixed)).Succeeds rules c
            ((Value.str s).chain (ss'.map .str)) d) ∧
    (∀ v d, lengthPrefixed.Succeeds rules c v d → ∃ digits s, v = .str s ∧
      c.Consumes (digits ++ ':' :: s) d ∧ Numeral.IsDigits digits ∧
        Nat.ofDigitChars 10 digits 0 = s.byteSize) ∧
    (∀ digits after, c.rest = digits ++ ':' :: after → Numeral.Representable digits →
      (∀ s : Text, s <+: after → s.byteSize ≠ Nat.ofDigitChars 10 digits 0) →
        lengthPrefixed.Fails rules c
          (.rejected "field is shorter than its length".toList after) c) ∧
    ∀ c' e d, lengthPrefixed.Fails rules c' e d → d = c' := by
  refine ⟨fun ss rest hrest ↦ ?_, ?_, ?_, ?_⟩
  · have hd := hc.consumes_advance hrest
    refine ⟨_, hd, List.append_cancel_left (hd.rest.symm.trans hrest), ?_, ?_⟩
    · exact fun depth saved ↦ readsBack_lengthPrefixed.run hc hd saved
    · rintro s ss' rfl
      exact ⟨0, readsBack_lengthPrefixed.chain hc hd⟩
  · rintro v d ⟨depth, h⟩
    obtain ⟨digits, s, hv, hdigits, hsize, hd⟩ := (succeeds_lengthPrefixed hc).mp h
    exact ⟨digits, s, hv, hd, hdigits, hsize⟩
  · exact fun digits after hrest hdigits hshort ↦
      ⟨0, fails_lengthPrefixed_short hc hrest hdigits hshort⟩
  · rintro c' e d ⟨depth, h⟩
    exact fails_lengthPrefixed_restores h

/-- Three fields, of which one has digits, colons and a letter of two bytes in it and one is
empty; a length with zeros in front of it; and one that ends inside a character. -/
theorem lengthPrefixed_reads_back_letters :
    let rules : Rules := fun _ ↦ .never
    let fields : List Text := ["2:é:".toList, [], "17".toList]
    let c : Cursor := .start "5:2:é:0:2:173:x".toList
    let d : Cursor := ⟨c.source, 13⟩
    let zeros : Cursor := .start "004:€az".toList
    let short : Cursor := .start ['2', ':', '€', 'a', 'z']
    (c.WellFormed ∧ ∃ answers,
      Session.run rules 0 ⟨c, []⟩ (List.replicate 3 (.parse lengthPrefixed)) =
          some (⟨d, []⟩, answers) ∧
        answers.map Session.Answer.result = fields.map fun s ↦ some (.ok (.str s))) ∧
    (zeros.WellFormed ∧ lengthPrefixed.Succeeds rules zeros (.str "€a".toList) ⟨zeros.source, 8⟩ ∧
      ∃ digits s, Value.str "€a".toList = .str s ∧
        zeros.Consumes (digits ++ ':' :: s) ⟨zeros.source, 8⟩ ∧ Numeral.IsDigits digits ∧
          Nat.ofDigitChars 10 digits 0 = s.byteSize) ∧
    (short.WellFormed ∧ lengthPrefixed.Fails rules short
      (.rejected "field is shorter than its length".toList ['€', 'a', 'z']) short) := by
  intro rules fields c d zeros short
  have hc : c.WellFormed := Cursor.wellFormed_start (by decide)
  have hzeros : zeros.WellFormed := Cursor.wellFormed_start (by decide)
  have hshort : short.WellFormed := Cursor.wellFormed_start (by decide)
  obtain ⟨hread, -⟩ := @lengthPrefixed_reads_back rules c hc
  obtain ⟨-, hback, -⟩ := @lengthPrefixed_reads_back rules zeros hzeros
  obtain ⟨-, -, hfails, -⟩ := @lengthPrefixed_reads_back rules short hshort
  refine ⟨⟨hc, ?_⟩, ⟨hzeros, ?_⟩, hshort, ?_⟩
  · obtain ⟨d', hd, -, hrun, -⟩ := hread fields "3:x".toList (by decide)
    obtain rfl : d' = d := Cursor.ext hd.source (hd.position.trans (by decide))
    exact hrun 0 []
  · have h : lengthPrefixed.Succeeds rules zeros (.str "€a".toList) ⟨zeros.source, 8⟩ :=
      ⟨0, [], by rfl⟩
    exact ⟨h, hback _ _ h⟩
  · refine hfails ['2'] ['€', 'a', 'z'] (by decide)
      ⟨⟨List.cons_ne_nil _ _, List.all_eq_true.mp rfl⟩, by decide⟩ fun s hs ↦ ?_
    -- The empty beginning is too small, and any other one has the three bytes of the sign.
    cases s with
    | nil => decide
    | cons x s =>
        obtain ⟨rfl, -⟩ := List.cons_prefix_cons.mp hs
        have hsize : Char.utf8Size '€' = 3 := by decide
        have htwo : Nat.ofDigitChars 10 ['2'] 0 = 2 := by decide
        rw [Text.byteSize_cons, hsize, htwo]
        omega

end Grammar

end Backtrack
