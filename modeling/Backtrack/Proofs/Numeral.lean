import Backtrack.Numeral
import Backtrack.Text.Class

/-!
# Decimal numerals

What a decimal numeral denotes is said here without reading it: a sign or none, and the
positional value of one or more of the ten digits, with as many zeros in front as there are.
Reading accepts exactly the numerals that denote a number of the signed 64-bit range, and
gives that number (`read_ten_eq_ok`).  It compares with the limit after every digit; the
value never falls, so this is the same as comparing once at the end.

The other way round, a number is read back from the digits that it is written with, in any base
up to sixteen (`magnitude_toDigits`).
-/

namespace Backtrack.Numeral

/-- One or more of the ten digits. -/
structure IsDigits (t : Text) : Prop where
  ne_nil : t ≠ []
  isAsciiDigit (c : Char) : c ∈ t → Text.isAsciiDigit c = true

/-- The number that a decimal numeral denotes. -/
inductive Denotes : Text → Int → Prop
  | unsigned {t : Text} : IsDigits t → Denotes t (Nat.ofDigitChars 10 t 0)
  | plus {t : Text} : IsDigits t → Denotes ('+' :: t) (Nat.ofDigitChars 10 t 0)
  | minus {t : Text} : IsDigits t → Denotes ('-' :: t) (-Nat.ofDigitChars 10 t 0)

/-! ## Signs -/

theorem not_isDigits_plus (t : Text) : ¬ IsDigits ('+' :: t) := fun h ↦
  absurd (h.isAsciiDigit '+' List.mem_cons_self) (by decide)

theorem not_isDigits_minus (t : Text) : ¬ IsDigits ('-' :: t) := fun h ↦
  absurd (h.isAsciiDigit '-' List.mem_cons_self) (by decide)

theorem denotes_plus {t : Text} {k : Int} :
    Denotes ('+' :: t) k ↔ IsDigits t ∧ Nat.ofDigitChars 10 t 0 = k := by
  constructor
  · intro h
    cases h with
    | unsigned h => exact absurd h (not_isDigits_plus t)
    | plus h => exact ⟨h, rfl⟩
  · rintro ⟨h, rfl⟩
    exact .plus h

theorem denotes_minus {t : Text} {k : Int} :
    Denotes ('-' :: t) k ↔ IsDigits t ∧ -Nat.ofDigitChars 10 t 0 = k := by
  constructor
  · intro h
    cases h with
    | unsigned h => exact absurd h (not_isDigits_minus t)
    | minus h => exact ⟨h, rfl⟩
  · rintro ⟨h, rfl⟩
    exact .minus h

/-- Without a sign, the digits alone count. -/
theorem denotes_unsigned {t : Text} {k : Int} (hplus : ∀ u, t ≠ '+' :: u)
    (hminus : ∀ u, t ≠ '-' :: u) :
    Denotes t k ↔ IsDigits t ∧ Nat.ofDigitChars 10 t 0 = k := by
  constructor
  · intro h
    cases h with
    | unsigned h => exact ⟨h, rfl⟩
    | plus => exact absurd rfl (hplus _)
    | minus => exact absurd rfl (hminus _)
  · rintro ⟨h, rfl⟩
    exact .unsigned h

/-! ## Digits -/

/-- The digits of base ten are the ten digits. -/
theorem digit?_ten (c : Char) :
    digit? 10 c = if Text.isAsciiDigit c then some (c.toNat - '0'.toNat) else none := by
  have hfilter : ∀ n, (some (n + 10)).filter (fun d ↦ decide (d < 10)) = none := by
    intro n
    simp
  by_cases hc : '0' ≤ c ∧ c ≤ '9'
  · have hle : c.toNat ≤ '9'.toNat := UInt32.le_iff_toNat_le.mp hc.2
    have hlt : c.toNat - '0'.toNat < 10 := by
      simp only [Char.reduceToNat] at hle ⊢
      omega
    rw [digit?, hexDigit?, if_pos hc, Option.filter_some, if_pos (decide_eq_true hlt)]
    simp [Text.isAsciiDigit, hc]
  · -- The letters are worth ten and more.
    have hdigit : Text.isAsciiDigit c = false := by simpa [Text.isAsciiDigit] using hc
    rw [digit?, hexDigit?, if_neg hc, hdigit]
    split
    · exact hfilter _
    · split
      · exact hfilter _
      · rfl

/-- More digits do not make the value less. -/
theorem le_ofDigitChars (n : Nat) (t : Text) : n ≤ Nat.ofDigitChars 10 t n := by
  induction t generalizing n with
  | nil => simp
  | cons c t ih =>
      rw [Nat.ofDigitChars_cons]
      exact Nat.le_trans (by omega) (ih _)

theorem magnitude_ten_eq_ok {limit n m : Nat} {excess : Fault} {t : Text} (hn : n ≤ limit) :
    magnitude 10 limit excess n t = .ok m ↔
      (∀ c ∈ t, Text.isAsciiDigit c = true) ∧ Nat.ofDigitChars 10 t n = m ∧ m ≤ limit := by
  induction t generalizing n with
  | nil =>
      rw [magnitude, Nat.ofDigitChars_nil]
      constructor
      · rintro ⟨⟩
        exact ⟨fun _ h ↦ (nomatch h), rfl, hn⟩
      · rintro ⟨-, rfl, -⟩
        rfl
  | cons c t ih =>
      rw [magnitude, digit?_ten, Nat.ofDigitChars_cons, Nat.mul_comm 10 n, List.forall_mem_cons]
      cases hc : Text.isAsciiDigit c with
      | false => simp
      | true =>
          simp only [if_true, true_and]
          split
          · next hle => exact ih hle
          · next hgt =>
              have hgrow := le_ofDigitChars (n * 10 + (c.toNat - '0'.toNat)) t
              constructor
              · rintro ⟨⟩
              · rintro ⟨-, rfl, hm⟩
                omega

/-! ## Reading -/

/-- A magnitude that is read and then converted. -/
theorem map_magnitude_ten_eq_ok {limit : Nat} {excess : Fault} {t : Text} {f : Nat → Int64}
    {n : Int64} :
    (magnitude 10 limit excess 0 t).map f = .ok n ↔
      (∀ c ∈ t, Text.isAsciiDigit c = true) ∧
        Nat.ofDigitChars 10 t 0 ≤ limit ∧ f (Nat.ofDigitChars 10 t 0) = n := by
  cases hm : magnitude 10 limit excess 0 t with
  | error fault =>
      constructor
      · rintro ⟨⟩
      · rintro ⟨ht, hle, -⟩
        rw [(magnitude_ten_eq_ok (Nat.zero_le limit)).mpr ⟨ht, rfl, hle⟩] at hm
        cases hm
  | ok m =>
      obtain ⟨ht, rfl, hle⟩ := (magnitude_ten_eq_ok (Nat.zero_le limit)).mp hm
      constructor
      · rintro ⟨⟩
        exact ⟨ht, hle, rfl⟩
      · rintro ⟨-, -, rfl⟩
        rfl

theorem readUnsigned_ten_eq_ok {t : Text} {n : Int64} :
    readUnsigned 10 t = .ok n ↔
      (∀ c ∈ t, Text.isAsciiDigit c = true) ∧ Nat.ofDigitChars 10 t 0 = n.toInt := by
  rw [readUnsigned, map_magnitude_ten_eq_ok]
  have hn := n.toInt_lt
  refine and_congr_right fun _ ↦ ⟨?_, fun h ↦ ?_⟩
  · rintro ⟨hle, rfl⟩
    rw [Int64.toInt_ofNat_of_lt (by omega)]
  · have hlt : Nat.ofDigitChars 10 t 0 < 2 ^ 63 := by omega
    exact ⟨by omega, Int64.toInt_inj.mp (by rw [Int64.toInt_ofNat_of_lt hlt, h])⟩

theorem readNegative_ten_eq_ok {t : Text} {n : Int64} :
    ((magnitude 10 0x8000000000000000 .tooSmall 0 t).map fun m : Nat ↦ Int64.ofInt (-m)) =
        .ok n ↔
      (∀ c ∈ t, Text.isAsciiDigit c = true) ∧ -Nat.ofDigitChars 10 t 0 = n.toInt := by
  rw [map_magnitude_ten_eq_ok]
  have hn := n.le_toInt
  refine and_congr_right fun _ ↦ ⟨?_, fun h ↦ ?_⟩
  · rintro ⟨hle, rfl⟩
    rw [Int64.toInt_ofInt_of_le (by omega) (by omega)]
  · have hle : Nat.ofDigitChars 10 t 0 ≤ 2 ^ 63 := by omega
    refine ⟨by omega, Int64.toInt_inj.mp ?_⟩
    rw [Int64.toInt_ofInt_of_le (by omega) (by omega), h]

/-- Reading accepts the decimal numerals that denote a signed 64-bit number, and no other
text, and gives that number. -/
theorem read_ten_eq_ok {t : Text} {n : Int64} : read 10 t = .ok n ↔ Denotes t n.toInt := by
  have hdigits : ∀ {u : Text}, u ≠ [] →
      ((∀ c ∈ u, Text.isAsciiDigit c = true) ↔ IsDigits u) := fun hu ↦
    ⟨fun h ↦ ⟨hu, h⟩, fun h ↦ h.isAsciiDigit⟩
  have hnil : ¬ IsDigits [] := fun h ↦ h.ne_nil rfl
  unfold read
  split
  · rw [denotes_unsigned (by simp) (by simp)]
    simp [hnil]
  · simp [denotes_plus, hnil]
  · simp [denotes_minus, hnil]
  · next u hu =>
      rw [readUnsigned_ten_eq_ok, denotes_plus, hdigits hu]
  · next u hu =>
      -- The magnitude is cast to a whole number first and then negated.
      have hcast : ∀ x : Except Fault Nat,
          (x >>= fun m ↦ pure (m : Int)).map (fun k ↦ Int64.ofInt (-k)) =
            x.map fun m : Nat ↦ Int64.ofInt (-m) := by
        rintro (_ | _) <;> rfl
      rw [hcast, readNegative_ten_eq_ok, denotes_minus, hdigits hu]
  · next hne _ _ hplus hminus =>
      rw [readUnsigned_ten_eq_ok, denotes_unsigned hplus hminus, hdigits hne]

/-! ## Written numbers -/

theorem ofDigitChars_decimal (n : Nat) : Nat.ofDigitChars 10 (decimal n) 0 = n :=
  Nat.ofDigitChars_ten_toDigits

theorem decimal_injective : Function.Injective decimal :=
  Function.LeftInverse.injective (g := fun t ↦ Nat.ofDigitChars 10 t 0) ofDigitChars_decimal

/-- A digit of a base up to sixteen is worth what it was written for. -/
theorem digit?_digitChar {base d : Nat} (hbase : base ≤ 16) (hd : d < base) :
    digit? base (Nat.digitChar d) = some d := by
  have hhex : ∀ d < 16, hexDigit? (Nat.digitChar d) = some d := by decide
  rw [digit?, hhex d (by omega), Option.filter_some, if_pos (decide_eq_true hd)]

theorem magnitude_append (base limit : Nat) (excess : Fault) (n : Nat) (s t : Text) :
    magnitude base limit excess n (s ++ t) =
      (magnitude base limit excess n s).bind fun m ↦ magnitude base limit excess m t := by
  induction s generalizing n with
  | nil => rfl
  | cons c s ih =>
      rw [List.cons_append, magnitude, magnitude]
      cases digit? base c with
      | none => rfl
      | some d =>
          dsimp only
          split
          · exact ih _
          · rfl

/-- A number that is not above the limit is read back from its digits in any base up to
sixteen. -/
theorem magnitude_toDigits {base limit : Nat} (excess : Fault) {n : Nat} (hone : 1 < base)
    (hbase : base ≤ 16) (hn : n ≤ limit) :
    magnitude base limit excess 0 (Nat.toDigits base n) = .ok n := by
  induction n using Nat.strongRecOn with
  | ind n ih =>
      rw [Nat.toDigits_eq_if hone]
      split
      · next hlt =>
          rw [magnitude, digit?_digitChar hbase hlt]
          simp [magnitude, hn]
      · next hle =>
          have hless : n / base < n := Nat.div_lt_self (by omega) hone
          have hmod : n % base < base := Nat.mod_lt n (by omega)
          rw [magnitude_append, ih _ hless (by omega), Except.bind, magnitude,
            digit?_digitChar hbase hmod]
          simp [magnitude, Nat.div_add_mod', hn]

theorem exists_digitChar_of_mem_toDigits {base n : Nat} (hone : 1 < base) {c : Char}
    (h : c ∈ Nat.toDigits base n) : ∃ d, c = Nat.digitChar d := by
  induction n using Nat.strongRecOn with
  | ind n ih =>
      rw [Nat.toDigits_eq_if hone] at h
      split at h
      · exact ⟨n, List.mem_singleton.mp h⟩
      · next hle =>
          rcases List.mem_append.mp h with h | h
          · exact ih _ (Nat.div_lt_self (by omega) hone) h
          · exact ⟨_, List.mem_singleton.mp h⟩

end Backtrack.Numeral
