import Backtrack.Proofs.Numeral
import Backtrack.Proofs.Parser.Forward
import Backtrack.Proofs.Text.Run

/-!
# Whole numbers

A whole number is read from the longest run of numerals of any script, which is more than its
reader accepts: one of the ten digits has to stand in every place, and the value has to be in
the signed 64-bit range (`Numeral.Representable`).  The reader takes a sign too, but no sign is
a numeral, so it never sees one.  Both together say when a number is read, which one it is and
where the parser stops (`Parser.integer_reads_run`), and that what is written in decimal digits
is read back.
-/

namespace Backtrack

namespace Text

theorem isAsciiDigit_of_isDigit {c : Char} (h : c.isDigit = true) : isAsciiDigit c = true := h

/-- The ten digits are the first of the numerals. -/
theorem isNumeric_of_isAsciiDigit {c : Char} (h : isAsciiDigit c = true) :
    isNumeric c = true := by
  simp only [isAsciiDigit, Bool.and_eq_true, decide_eq_true_eq] at h
  have hlow : '0'.toNat ≤ c.toNat := UInt32.le_iff_toNat_le.mp h.1
  have hhigh : c.toNat ≤ '9'.toNat := UInt32.le_iff_toNat_le.mp h.2
  exact isNumeric_iff.mpr ⟨_, List.mem_cons_self, hlow, hhigh⟩

end Text

namespace Numeral

/-- The text is a number without a sign that is in the signed 64-bit range. -/
structure Representable (t : Text) : Prop where
  isDigits : IsDigits t
  le : Nat.ofDigitChars 10 t 0 ≤ 0x7fffffffffffffff

theorem Representable.toInt_ofNat {t : Text} (h : Representable t) :
    (Int64.ofNat (Nat.ofDigitChars 10 t 0)).toInt = Nat.ofDigitChars 10 t 0 := by
  have hle := h.le
  exact Int64.toInt_ofNat_of_lt (by omega)

/-- No sign is a numeral, so a text of numerals denotes a number by its digits alone. -/
theorem denotes_numeric {t : Text} {k : Int} (h : ∀ c ∈ t, Text.isNumeric c = true) :
    Denotes t k ↔ IsDigits t ∧ Nat.ofDigitChars 10 t 0 = k := by
  refine denotes_unsigned ?_ ?_
  · rintro u rfl
    exact absurd (h '+' List.mem_cons_self) (by decide)
  · rintro u rfl
    exact absurd (h '-' List.mem_cons_self) (by decide)

theorem read_numeric_eq_ok {t : Text} {n : Int64} (h : ∀ c ∈ t, Text.isNumeric c = true) :
    read 10 t = .ok n ↔ IsDigits t ∧ Nat.ofDigitChars 10 t 0 = n.toInt := by
  rw [read_ten_eq_ok, denotes_numeric h]

theorem exists_read_numeric {t : Text} (h : ∀ c ∈ t, Text.isNumeric c = true) :
    (∃ n, read 10 t = .ok n) ↔ Representable t := by
  constructor
  · rintro ⟨n, hn⟩
    obtain ⟨hdigits, hvalue⟩ := (read_numeric_eq_ok h).mp hn
    have hlt := n.toInt_lt
    exact ⟨hdigits, by omega⟩
  · intro ht
    exact ⟨.ofNat (Nat.ofDigitChars 10 t 0),
      (read_numeric_eq_ok h).mpr ⟨ht.isDigits, ht.toInt_ofNat.symm⟩⟩

theorem exists_read_error {t : Text} (h : ∀ c ∈ t, Text.isNumeric c = true) :
    (∃ fault, read 10 t = .error fault) ↔ ¬ Representable t := by
  rw [← exists_read_numeric h]
  cases read 10 t <;> simp

/-! ## Decimal digits -/

theorem isDigits_decimal (n : Nat) : IsDigits (decimal n) where
  ne_nil := Nat.toDigits_ne_nil
  isAsciiDigit _ hc :=
    Text.isAsciiDigit_of_isDigit (Nat.isDigit_of_mem_toDigits (by decide) (by decide) hc)

theorem IsDigits.isNumeric {t : Text} (h : IsDigits t) : ∀ x ∈ t, Text.isNumeric x = true :=
  fun x hx ↦ Text.isNumeric_of_isAsciiDigit (h.isAsciiDigit x hx)

theorem signed_natCast (n : Nat) : signed n = decimal n := by
  rw [signed, if_neg (by omega), Int.natAbs_natCast]

theorem isLongestRun_decimal {n : Nat} {rest : Text}
    (h : ∀ x, rest.head? = some x → Text.isNumeric x = false) :
    Text.IsLongestRun Text.isNumeric (decimal n ++ rest) (decimal n) :=
  Text.isLongestRun_append (isDigits_decimal n).isNumeric h

end Numeral

namespace Parser

variable {c d : Cursor} {digits : Text}

theorem succeeds_integer_run {n : Int64} (hc : c.WellFormed)
    (h : Text.IsLongestRun Text.isNumeric c.rest digits) :
    integer.Succeeds c n d ↔
      Numeral.IsDigits digits ∧ Nat.ofDigitChars 10 digits 0 = n.toInt ∧ c.Consumes digits d := by
  rw [succeeds_integer, Text.isLongestRun_iff.mp h, Numeral.read_numeric_eq_ok h.accepted,
    hc.consumes_iff h.starts, and_assoc]

theorem fails_integer_run {e : Failure} (h : Text.IsLongestRun Text.isNumeric c.rest digits) :
    integer.Fails c e d ↔
      ¬ Numeral.Representable digits ∧ e = .notNumber digits c.rest ∧ d = c := by
  rw [fails_integer, Text.isLongestRun_iff.mp h, Numeral.exists_read_error h.accepted]

theorem exists_succeeds_integer (h : Text.IsLongestRun Text.isNumeric c.rest digits) :
    (∃ n d, integer.Succeeds c n d) ↔ Numeral.Representable digits := by
  rw [← Numeral.exists_read_numeric h.accepted, ← Text.isLongestRun_iff.mp h]
  simp [succeeds_integer]

/-- A number that is read starts with a numeral. -/
theorem Succeeds.head_numeric {n : Int64} (h : integer.Succeeds c n d) :
    ∃ x, c.rest.head? = some x ∧ Text.isNumeric x = true := by
  obtain ⟨hread, -⟩ := succeeds_integer.mp h
  cases hrest : c.rest with
  | nil =>
      rw [hrest] at hread
      cases hread
  | cons x t =>
      refine ⟨x, rfl, ?_⟩
      by_contra hx
      rw [hrest, List.takeWhile_cons_of_neg hx] at hread
      cases hread

/-- A success at the start of a text is what a run of the text gives, with what is left. -/
theorem Succeeds.run {α : Type} {p : Parser α} {t : Text} {a : α}
    (h : p.Succeeds (.start t) a d) :
    (p.run t).map Reply.outcome = some (.ok (a, d.rest)) := by
  obtain ⟨es, h⟩ := h
  rw [run_eq, h]
  rfl

/-- What is written in decimal digits is read back, and what comes next is left. -/
theorem run_integer_decimal {n : Nat} {rest : Text} (hn : n ≤ 0x7fffffffffffffff)
    (hrest : ∀ x, rest.head? = some x → Text.isNumeric x = false)
    (hsize : (Numeral.decimal n ++ rest).Addressable) :
    ∃ m : Int64, m.toInt = n ∧
      (integer.run (Numeral.decimal n ++ rest)).map Reply.outcome = some (.ok (m, rest)) := by
  let c : Cursor := .start (Numeral.decimal n ++ rest)
  have hc : c.WellFormed := Cursor.wellFormed_start hsize
  have hstart : c.rest = Numeral.decimal n ++ rest := Cursor.rest_start _
  have hrun : Text.IsLongestRun Text.isNumeric c.rest (Numeral.decimal n) := by
    rw [hstart]
    exact Numeral.isLongestRun_decimal hrest
  have hvalue := Numeral.ofDigitChars_decimal n
  obtain ⟨m, d, h⟩ :=
    (exists_succeeds_integer hrun).mpr ⟨Numeral.isDigits_decimal n, by rwa [hvalue]⟩
  obtain ⟨-, hm, hd⟩ := (succeeds_integer_run hc hrun).mp h
  have hleft : d.rest = rest := List.append_cancel_left (hd.rest.symm.trans hstart)
  refine ⟨m, by rw [← hm, hvalue], ?_⟩
  rw [h.run, hleft]

/-- At a well-formed cursor, a number is read exactly if the longest run of numerals consists
of the ten digits and has a value in the range.  The value is then that of the digits, and just
they are consumed; otherwise the failure carries the run and what is left, and the cursor stays.
What is written in decimal digits, with no numeral after it, is read back. -/
theorem integer_reads_run :
    (∀ c : Cursor, c.WellFormed →
      ∃ digits, Text.IsLongestRun Text.isNumeric c.rest digits ∧
        ((∃ n d, integer.Succeeds c n d) ↔ Numeral.Representable digits) ∧
        (∀ n d, integer.Succeeds c n d →
          Nat.ofDigitChars 10 digits 0 = n.toInt ∧ c.Consumes digits d) ∧
        (∀ e d, integer.Fails c e d ↔
          ¬ Numeral.Representable digits ∧ e = .notNumber digits c.rest ∧ d = c)) ∧
    ∀ (n : Nat) (rest : Text), n ≤ 0x7fffffffffffffff →
      (∀ x, rest.head? = some x → Text.isNumeric x = false) →
      (Numeral.decimal n ++ rest).Addressable →
      ∃ m : Int64, m.toInt = n ∧
        (integer.run (Numeral.decimal n ++ rest)).map Reply.outcome = some (.ok (m, rest)) := by
  refine ⟨fun c hc ↦ ?_, fun n rest ↦ run_integer_decimal⟩
  have hrun := Text.isLongestRun_takeWhile Text.isNumeric c.rest
  refine ⟨_, hrun, exists_succeeds_integer hrun, fun n d h ↦ ?_, fun e d ↦ fails_integer_run hrun⟩
  exact ((succeeds_integer_run hc hrun).mp h).2

/-- After a letter of two bytes, zeros in front of a digit are read with it.  The first number
above the range is refused, with its digits, and so is a digit before a numeral that is none of
the ten digits.  The greatest number is read back before the letter. -/
theorem integer_reads_run_limits :
    let c : Cursor := ⟨['é', '0', '0', '7', 'x'], 2⟩
    let above : Cursor := .start "9223372036854775808".toList
    let mixed : Cursor := ⟨['7', '٣', '+'], 0⟩
    (c.WellFormed ∧ integer.Succeeds c 7 ⟨c.source, 5⟩) ∧
      (above.WellFormed ∧ integer.Fails above (.notNumber above.source above.source) above) ∧
      (mixed.WellFormed ∧ integer.Fails mixed (.notNumber ['7', '٣'] mixed.source) mixed) ∧
      (Numeral.decimal 0x7fffffffffffffff ++ ['é']).Addressable ∧ Text.isNumeric 'é' = false ∧
      ∃ m : Int64, m.toInt = 0x7fffffffffffffff ∧
        (integer.run (Numeral.decimal 0x7fffffffffffffff ++ ['é'])).map Reply.outcome =
          some (.ok (m, ['é'])) := by
  intro c above mixed
  have hc : c.WellFormed := ⟨⟨['é'], ['0', '0', '7', 'x'], rfl, rfl⟩, by decide⟩
  have habove : above.WellFormed := Cursor.wellFormed_start (by decide)
  have hmixed : mixed.WellFormed := Cursor.wellFormed_start (by decide)
  have hsize : (Numeral.decimal 0x7fffffffffffffff ++ ['é']).Addressable := by decide
  have hletter : Text.isNumeric 'é' = false := by decide
  obtain ⟨hread, hback⟩ := integer_reads_run
  refine ⟨⟨hc, ?_⟩, ⟨habove, ?_⟩, ⟨hmixed, ?_⟩, hsize, hletter, ?_⟩
  · obtain ⟨digits, hrun, hiff, hvalue, -⟩ := hread c hc
    obtain rfl : ['0', '0', '7'] = digits := Text.isLongestRun_iff.mp hrun
    have hdigits : Numeral.IsDigits ['0', '0', '7'] :=
      ⟨List.cons_ne_nil _ _, List.all_eq_true.mp rfl⟩
    obtain ⟨n, d, h⟩ := hiff.mpr ⟨hdigits, by decide⟩
    obtain ⟨hn, hd⟩ := hvalue n d h
    obtain rfl : 7 = n := Int64.toInt_inj.mp hn
    obtain rfl : d = ⟨c.source, 5⟩ := Cursor.ext hd.source hd.position
    exact h
  · obtain ⟨digits, hrun, -, -, hfails⟩ := hread above habove
    obtain rfl : above.source = digits := Text.isLongestRun_iff.mp hrun
    exact (hfails _ _).mpr ⟨fun h ↦ absurd h.le (by decide), rfl, rfl⟩
  · obtain ⟨digits, hrun, -, -, hfails⟩ := hread mixed hmixed
    obtain rfl : ['7', '٣'] = digits := Text.isLongestRun_iff.mp hrun
    refine (hfails _ _).mpr ⟨fun h ↦ ?_, rfl, rfl⟩
    exact absurd (h.isDigits.isAsciiDigit '٣' (by simp)) (by decide)
  · refine hback 0x7fffffffffffffff ['é'] (Nat.le_refl _) ?_ hsize
    rintro x ⟨⟩
    exact hletter

end Parser

end Backtrack
