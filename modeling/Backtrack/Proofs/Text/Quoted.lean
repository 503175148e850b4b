import Backtrack.Proofs.Numeral
import Backtrack.Text.Quoted

/-!
# Reading quoted texts

Each character of a quoted text can be read back without looking at what follows it
(`unescape?_escape`), and the closing quote is no such character.  So a quoted text is told apart
from whatever stands behind it, and two texts that are quoted alike are the same
(`quoted_append_inj`).

From behind the characters cannot be read in this way, and what stands in front of a quoted text
may itself look like the beginning of one.  But every quote inside a quoted text comes after a
backslash (`exists_backslash_of_flatMap_escape`), so a quoted text is told apart from what stands
in front of it by any other character between them (`append_quoted_inj`).
-/

namespace Backtrack.Text

variable {s t u v : Text} {c : Char}

/-! ## Characters -/

/-- The character that a mark behind a backslash stands for. -/
def marked? : Char → Option Char
  | '"' => some '"'
  | '\\' => some '\\'
  | 't' => some '\t'
  | 'n' => some '\n'
  | 'r' => some '\r'
  | '0' => some '\x00'
  | _ => none

/-- A character inside a quoted text is marked, numbered, or stands for itself. -/
theorem escape_cases (c : Char) :
    (∃ x, marked? x = some c ∧ escape c = ['\\', x]) ∨ escape c = numbered c.toNat ∨
      c ≠ '"' ∧ c ≠ '\\' ∧ escape c = [c] := by
  unfold escape
  split
  · exact .inl ⟨_, rfl, rfl⟩
  · exact .inl ⟨_, rfl, rfl⟩
  · exact .inl ⟨_, rfl, rfl⟩
  · exact .inl ⟨_, rfl, rfl⟩
  · exact .inl ⟨_, rfl, rfl⟩
  · exact .inl ⟨_, rfl, rfl⟩
  · next hquote hbackslash _ _ _ _ =>
      split
      · exact .inr (.inl rfl)
      · exact .inr (.inr ⟨hquote, hbackslash, rfl⟩)

/-- The characters that are written by their number are those that the ranges hold. -/
theorem escape_eq_numbered_iff (c : Char) :
    escape c = numbered c.toNat ↔ Ranges.escaped.Holds c.toNat := by
  have hlong : [c] ≠ numbered c.toNat := by
    intro h
    have hlength := congrArg List.length h
    simp [numbered] at hlength
  rw [← Ranges.covers_iff Ranges.ascendsFrom_escaped]
  unfold escape
  split
  case h_7 =>
    split
    · next hcovers => exact iff_of_true rfl hcovers
    · next hcovers => exact iff_of_false hlong hcovers
  -- The characters with a form of their own are in no range.
  all_goals exact iff_of_false (by decide) (by decide)

/-- The first character of a quoted text whose opening quote has been read, and what follows
it.  There is none at the closing quote. -/
def unescape? : Text → Option (Char × Text)
  | '\\' :: 'u' :: '\x7b' :: t =>
    match Numeral.magnitude 16 0x10ffff .tooLarge 0 (t.takeWhile (· != '\x7d')) with
    | .ok n => some (Char.ofNat n, (t.dropWhile (· != '\x7d')).tail)
    | .error _ => none
  | '\\' :: x :: t => (marked? x).map fun c ↦ (c, t)
  | x :: t => if x = '"' ∨ x = '\\' then none else some (x, t)
  | [] => none

theorem unescape?_marked {x : Char} (h : marked? x = some c) (t : Text) :
    unescape? ('\\' :: x :: t) = some (c, t) := by
  unfold marked? at h
  split at h <;> cases h <;> rfl

theorem unescape?_plain (hquote : c ≠ '"') (hbackslash : c ≠ '\\') (t : Text) :
    unescape? (c :: t) = some (c, t) := by
  unfold unescape?
  split <;> simp_all

/-- The digits of a number are not any of the marks around them. -/
theorem ne_of_mem_toDigits {n : Nat} {x : Char} (hx : x ∈ Nat.toDigits 16 n)
    (hc : ∀ d, Nat.digitChar d ≠ c) : x ≠ c := by
  obtain ⟨d, rfl⟩ := Numeral.exists_digitChar_of_mem_toDigits (by decide) hx
  exact hc d

theorem unescape?_numbered (c : Char) (t : Text) :
    unescape? (numbered c.toNat ++ t) = some (c, t) := by
  have hstart : numbered c.toNat ++ t =
      '\\' :: 'u' :: '\x7b' :: (Nat.toDigits 16 c.toNat ++ '\x7d' :: t) := by
    rw [numbered, List.append_assoc, List.append_assoc]
    rfl
  have hdigits : ∀ x ∈ Nat.toDigits 16 c.toNat, (x != '\x7d') = true := fun x hx ↦
    bne_iff_ne.mpr (ne_of_mem_toDigits hx fun _ ↦ Nat.digitChar_ne '\x7d' rfl)
  have hvalid : c.toNat < 0xd800 ∨ 0xdfff < c.toNat ∧ c.toNat < 0x110000 := c.valid
  have hread : Numeral.magnitude 16 0x10ffff .tooLarge 0 (Nat.toDigits 16 c.toNat) =
      .ok c.toNat := Numeral.magnitude_toDigits _ (by decide) (by decide) (by omega)
  rw [hstart, unescape?, List.takeWhile_append_of_pos hdigits, List.dropWhile_append_of_pos hdigits,
    List.takeWhile_cons, List.dropWhile_cons]
  simp [hread]

theorem unescape?_escape (c : Char) (t : Text) : unescape? (escape c ++ t) = some (c, t) := by
  rcases escape_cases c with ⟨x, hx, hc⟩ | hc | ⟨hquote, hbackslash, hc⟩
  · rw [hc]
    exact unescape?_marked hx t
  · rw [hc, unescape?_numbered]
  · rw [hc]
    exact unescape?_plain hquote hbackslash t

/-! ## From the front -/

/-- The inside of a quoted text ends at the closing quote. -/
theorem flatMap_escape_append_inj
    (h : s.flatMap escape ++ '"' :: u = t.flatMap escape ++ '"' :: v) : s = t ∧ u = v := by
  -- The next character is read on both sides; at the closing quote there is none.
  have hread := congrArg unescape? h
  induction s generalizing t with
  | nil =>
      cases t with
      | nil => exact ⟨rfl, (List.cons_eq_cons.mp h).2⟩
      | cons c t =>
          rw [List.flatMap_cons, List.append_assoc, unescape?_escape] at hread
          cases hread
  | cons c s ih =>
      rw [List.flatMap_cons, List.append_assoc, unescape?_escape] at hread
      cases t with
      | nil => cases hread
      | cons d t =>
          rw [List.flatMap_cons, List.append_assoc, unescape?_escape] at hread
          obtain ⟨rfl, htail⟩ := Prod.mk.inj (Option.some.inj hread)
          obtain ⟨rfl, huv⟩ := ih htail (congrArg unescape? htail)
          exact ⟨rfl, huv⟩

theorem quoted_append_inj : s.quoted ++ u = t.quoted ++ v ↔ s = t ∧ u = v := by
  constructor
  · intro h
    simp only [quoted, List.cons_append, List.append_assoc, List.nil_append] at h
    exact flatMap_escape_append_inj (List.cons_eq_cons.mp h).2
  · rintro ⟨rfl, rfl⟩
    rfl

theorem quoted_inj : s.quoted = t.quoted ↔ s = t := by
  have h := @quoted_append_inj s t [] []
  rwa [List.append_nil, List.append_nil, and_iff_left rfl] at h

/-! ## From behind -/

theorem quote_notMem_numbered (n : Nat) : '"' ∉ numbered n := by
  have hdigits : '"' ∉ Nat.toDigits 16 n := fun h ↦
    ne_of_mem_toDigits h (fun _ ↦ Nat.digitChar_ne '"' rfl) rfl
  have hstart : '"' ∉ "\\u\x7b".toList := by decide
  have hend : '"' ∉ "\x7d".toList := by decide
  simp only [numbered, List.mem_append, hdigits, hstart, hend, or_self, not_false_eq_true]

/-- A quote that a character is written with comes right after a backslash. -/
theorem eq_backslash_of_escape (h : escape c = u ++ '"' :: v) : u = ['\\'] := by
  have hmem : '"' ∈ escape c := h ▸ List.mem_append_right _ List.mem_cons_self
  rcases escape_cases c with ⟨x, -, hc⟩ | hc | ⟨hquote, -, hc⟩
  · rw [hc] at h
    cases u with
    | nil => simp at h
    | cons y u =>
        obtain ⟨rfl, htail⟩ := List.cons_eq_cons.mp h
        obtain ⟨rfl, -⟩ | ⟨w, -, hnil⟩ := List.cons_eq_append_iff.mp htail
        · rfl
        · simp at hnil
  · exact absurd (hc ▸ hmem) (quote_notMem_numbered _)
  · rw [hc] at hmem
    exact absurd (List.mem_singleton.mp hmem).symm hquote

/-- Inside a quoted text, every quote comes after a backslash. -/
theorem exists_backslash_of_flatMap_escape (h : t.flatMap escape = u ++ '"' :: v) :
    ∃ w, u = w ++ ['\\'] := by
  induction t generalizing u with
  | nil => simp at h
  | cons c t ih =>
      rw [List.flatMap_cons] at h
      rcases List.append_eq_append_iff.mp h with ⟨w, rfl, hw⟩ | ⟨_ | ⟨x, w⟩, hw, hv⟩
      · obtain ⟨w, rfl⟩ := ih hw
        exact ⟨_, (List.append_assoc _ _ _).symm⟩
      · obtain ⟨w, hnil⟩ := ih (u := []) hv.symm
        simp at hnil
      · obtain ⟨rfl, -⟩ := List.cons_eq_cons.mp hv
        exact ⟨[], eq_backslash_of_escape hw⟩

/-- Where a quoted text ends in another one, there is a backslash in front of that. -/
theorem eq_backslash_of_quoted {x : Char} (h : s.quoted = u ++ x :: t.quoted) : x = '\\' := by
  have hquoted : ('"' :: s.flatMap escape) ++ ['"'] =
      (u ++ x :: '"' :: t.flatMap escape) ++ ['"'] := by
    simpa [quoted] using h
  have hinside := List.append_cancel_right hquoted
  cases u with
  | nil =>
      obtain ⟨w, hw⟩ :=
        exists_backslash_of_flatMap_escape (u := []) (List.cons_eq_cons.mp hinside).2
      simp at hw
  | cons y u =>
      have htail : s.flatMap escape = (u ++ [x]) ++ '"' :: t.flatMap escape := by
        simpa using (List.cons_eq_cons.mp hinside).2
      obtain ⟨w, hw⟩ := exists_backslash_of_flatMap_escape htail
      simpa using (List.append_inj' hw rfl).2

/-- A quoted text is found at the end of a text, whatever stands in front of it, if there is a
character between them that is no backslash. -/
theorem append_quoted_inj {x : Char} (hx : x ≠ '\\') :
    u ++ x :: s.quoted = v ++ x :: t.quoted ↔ u = v ∧ s = t := by
  constructor
  · intro h
    obtain ⟨_ | ⟨y, w⟩, rfl, hw⟩ | ⟨_ | ⟨y, w⟩, rfl, hw⟩ := List.append_eq_append_iff.mp h
    · exact ⟨(List.append_nil u).symm, quoted_inj.mp (List.cons_eq_cons.mp hw).2⟩
    · exact absurd (eq_backslash_of_quoted (List.cons_eq_cons.mp hw).2) hx
    · exact ⟨List.append_nil v, (quoted_inj.mp (List.cons_eq_cons.mp hw).2).symm⟩
    · exact absurd (eq_backslash_of_quoted (List.cons_eq_cons.mp hw).2) hx
  · rintro ⟨rfl, rfl⟩
    rfl

end Backtrack.Text
