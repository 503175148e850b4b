import Backtrack.Proofs.Parser.Outcome
import Mathlib.Logic.Equiv.Prod

/-!
# Bracketings of sequences

Parsers in a sequence can be put together two at a time, in any bracketing, and they can be
chained by their values instead of paired.  It comes to the same (`Pairing.agrees_regroup`):
each parser starts where the one before it stopped, the first failure decides, and the cursor
is put back to the start, except that a failure of the very first parser is left as it is.

A sequence therefore does not behave like a list under concatenation.  With nothing in front
of it a parser may leave its cursor moved when it fails, behind anything else it may not.  So
the law that is proved by induction over a bracketing has another parser behind it
(`Pairing.zip_agrees_runBefore`), and the bracketing alone is the case where that one is
constant.
-/

namespace Backtrack.Parser

variable {α β γ : Type} {p p' : Parser α} {q q' : Parser β}

/-! ## Parts that agree -/

theorem Agrees.refl (p : Parser α) : p.Agrees p := fun _ ↦ rfl

theorem Agrees.map (f : α → β) (h : p.Agrees p') : (p.map f).Agrees (p'.map f) := by
  rw [agrees_iff] at h ⊢
  refine fun c ↦ ⟨fun b d ↦ ?_, fun e d ↦ ?_⟩
  · simp only [succeeds_map, (h c).1]
  · simp only [fails_map, (h c).2]

theorem Agrees.zip (hp : p.Agrees p') (hq : q.Agrees q') : (p.zip q).Agrees (p'.zip q') := by
  rw [agrees_iff] at hp hq ⊢
  refine fun c ↦ ⟨fun v d ↦ ?_, fun e d ↦ ?_⟩
  · simp only [succeeds_zip, (hp c).1, (hq _).1]
  · simp only [fails_zip, (hp c).1, (hp c).2, (hq _).2]

/-! ## Laws of pairs -/

theorem zip_map (p : Parser α) (q : Parser β) (f : β → γ) :
    p.zip (q.map f) = (p.zip q).map (Prod.map id f) := by
  ext1
  funext c
  rw [parse_zip, parse_map, parse_zip]
  rcases p.parse c with _ | ⟨_ | a, d, es⟩
  · rfl
  · rfl
  · simp only [parse_map]
    rcases q.parse d with _ | ⟨_ | b, d', fs⟩ <;> rfl

/-- A constant behind a parser only goes into the value. -/
theorem zip_always (p : Parser α) (b : β) : p.zip (always b) = p.map fun a ↦ (a, b) := by
  ext1
  funext c
  rw [parse_zip, parse_map]
  rcases p.parse c with _ | ⟨_ | a, d, es⟩
  · rfl
  · rfl
  · simp [always]

/-- It does not matter which two of three parsers are paired first. -/
theorem zip_assoc_agrees (p : Parser α) (q : Parser β) (r : Parser γ) :
    (((p.zip q).zip r).map fun v ↦ (v.1.1, v.1.2, v.2)).Agrees (p.zip (q.zip r)) := by
  refine agrees_iff.mpr fun c ↦ ⟨?_, fun e d ↦ ?_⟩
  · rintro ⟨a, b, x⟩ d
    simp only [succeeds_map, succeeds_zip]
    constructor
    · rintro ⟨⟨⟨a, b⟩, x⟩, ⟨m', ⟨m, ha, hb⟩, hx⟩, ⟨⟩⟩
      exact ⟨m, ha, m', hb, hx⟩
    · rintro ⟨m, ha, m', hb, hx⟩
      exact ⟨((a, b), x), ⟨m', ⟨m, ha, hb⟩, hx⟩, rfl⟩
  · simp only [fails_map, fails_zip, succeeds_zip]
    constructor
    · rintro ((hp | ⟨⟨a, m, stop, ha, hq⟩, rfl⟩) |
        ⟨⟨⟨a, b⟩, m', stop, ⟨m, ha, hb⟩, hr⟩, rfl⟩)
      · exact .inl hp
      · exact .inr ⟨⟨a, m, stop, ha, .inl hq⟩, rfl⟩
      · exact .inr ⟨⟨a, m, m, ha, .inr ⟨⟨b, m', stop, hb, hr⟩, rfl⟩⟩, rfl⟩
    · rintro (hp | ⟨⟨a, m, stop, ha, hq | ⟨⟨b, m', stop', hb, hr⟩, -⟩⟩, rfl⟩)
      · exact .inl (.inl hp)
      · exact .inl (.inr ⟨⟨a, m, stop, ha, hq⟩, rfl⟩)
      · exact .inr ⟨⟨(a, b), m', stop', ⟨m, ha, hb⟩, hr⟩, rfl⟩

/-- A pair is a chain whose second stage keeps the value of the first. -/
theorem zip_agrees_flatMap (p : Parser α) (q : Parser β) :
    (p.zip q).Agrees (p.flatMap fun a ↦ q.map fun b ↦ (a, b)) := by
  refine agrees_iff.mpr fun c ↦ ⟨?_, fun e d ↦ ?_⟩
  · rintro ⟨a, b⟩ d
    simp only [succeeds_zip, succeeds_flatMap, succeeds_map]
    constructor
    · rintro ⟨m, ha, hb⟩
      exact ⟨a, m, ha, b, hb, rfl⟩
    · rintro ⟨a, m, ha, b, hb, ⟨⟩⟩
      exact ⟨m, ha, hb⟩
  · simp only [fails_zip, fails_flatMap, fails_map]

/-! ## Parsers and values of several types -/

/-- One value of each type of the list, in order. -/
abbrev Values : List Type → Type
  | [] => Unit
  | α :: αs => α × Values αs

/-- A list of values before another one is a list of all of them. -/
def Values.append : (αs βs : List Type) → Values αs × Values βs ≃ Values (αs ++ βs)
  | [], βs => Equiv.punitProd (Values βs)
  | α :: αs, βs =>
    (Equiv.prodAssoc α (Values αs) (Values βs)).trans
      (Equiv.prodCongr (Equiv.refl α) (append αs βs))

/-- The values of two lists, all of them before another value. -/
def Values.appendBefore (αs βs : List Type) (v : Values αs × Values βs × γ) :
    Values (αs ++ βs) × γ :=
  (append αs βs (v.1, v.2.1), v.2.2)

/-- One parser for each type of the list, in order. -/
inductive Parsers : List Type → Type 1
  | nil : Parsers []
  | cons {α : Type} {αs : List Type} (p : Parser α) (ps : Parsers αs) : Parsers (α :: αs)

namespace Parsers

/-- The parsers of the first list, and then those of the second. -/
def append : {αs βs : List Type} → Parsers αs → Parsers βs → Parsers (αs ++ βs)
  | _, _, nil, qs => qs
  | _, _, cons p ps, qs => cons p (append ps qs)

/-- Runs the parsers of the list in order, and then `q`. -/
def runBefore : {αs : List Type} → Parsers αs → Parser β → Parser (Values αs × β)
  | _, nil, q => q.map fun b ↦ ((), b)
  | _, cons p ps, q => (p.zip (ps.runBefore q)).map fun v ↦ ((v.1, v.2.1), v.2.2)

theorem runBefore_append {αs βs : List Type} (ps : Parsers αs) (qs : Parsers βs)
    (r : Parser γ) :
    (ps.runBefore (qs.runBefore r)).map (Values.appendBefore αs βs) =
      (ps.append qs).runBefore r := by
  induction ps with
  | nil =>
      rw [runBefore, map_map]
      exact map_id _
  | cons p ps ih =>
      rw [append, runBefore, runBefore, ← ih, zip_map, map_map, map_map]
      rfl

end Parsers

/-! ## Bracketings -/

/-- Parsers in a sequence, put together two at a time.  Their own values have the types of
the list, and the value of the whole has the other type. -/
inductive Pairing : List Type → Type → Type 1
  /-- A parser. -/
  | one {α : Type} (p : Parser α) : Pairing [α] α
  /-- Those on the left before those on the right. -/
  | both {αs βs : List Type} {α β : Type} (left : Pairing αs α) (right : Pairing βs β) :
      Pairing (αs ++ βs) (α × β)

namespace Pairing

variable {αs : List Type}

/-- The parser that runs the sequence as it is bracketed. -/
def toParser : {αs : List Type} → {α : Type} → Pairing αs α → Parser α
  | _, _, one p => p
  | _, _, both left right => left.toParser.zip right.toParser

/-- The parsers of the sequence in order. -/
def parsers : {αs : List Type} → {α : Type} → Pairing αs α → Parsers αs
  | _, _, one p => .cons p .nil
  | _, _, both left right => left.parsers.append right.parsers

/-- The value of the whole is the values of the parsers, grouped as they are bracketed. -/
def values : {αs : List Type} → {α : Type} → Pairing αs α → α ≃ Values αs
  | _, _, @one α _ => (Equiv.prodPUnit α).symm
  | _, _, @both αs βs _ _ left right =>
    (Equiv.prodCongr left.values right.values).trans (Values.append αs βs)

/-- The values of one bracketing, grouped as another one groups them. -/
def regroup (s : Pairing αs α) (t : Pairing αs β) : α ≃ β := s.values.trans t.values.symm

/-- Before another parser, a bracketing does what its parsers do one by one. -/
theorem zip_agrees_runBefore (s : Pairing αs α) (q : Parser β) :
    ((s.toParser.zip q).map (Prod.map s.values id)).Agrees (s.parsers.runBefore q) := by
  induction s generalizing β with
  | one p =>
      rw [parsers, Parsers.runBefore, Parsers.runBefore, zip_map, map_map]
      exact .refl _
  | @both αs βs _ _ left right ihl ihr =>
      have hassoc := (zip_assoc_agrees left.toParser right.toParser q).map fun v ↦
        Values.appendBefore αs βs (left.values v.1, right.values v.2.1, v.2.2)
      have hright := ((Agrees.refl left.toParser).zip (ihr q)).map fun v ↦
        Values.appendBefore αs βs (left.values v.1, v.2)
      have hleft := (ihl (right.parsers.runBefore q)).map (Values.appendBefore αs βs)
      rw [map_map] at hassoc hleft
      rw [zip_map, map_map] at hright
      rw [Parsers.runBefore_append] at hleft
      exact (hassoc.trans hright).trans hleft

/-- Without another parser behind it, a bracketing still does what its parsers do. -/
theorem map_values_agrees (s : Pairing αs α) :
    (s.toParser.map s.values).Agrees ((s.parsers.runBefore (always ())).map Prod.fst) := by
  have h := (s.zip_agrees_runBefore (always ())).map Prod.fst
  rwa [zip_always, map_map, map_map] at h

theorem map_regroup_agrees {s : Pairing αs α} {t : Pairing αs β} (h : s.parsers = t.parsers) :
    (s.toParser.map (s.regroup t)).Agrees t.toParser := by
  have hst := s.map_values_agrees
  rw [h] at hst
  have hback := (hst.trans t.map_values_agrees.symm).map t.values.symm
  rw [map_map, map_map] at hback
  simp only [Equiv.symm_apply_apply, map_id] at hback
  exact hback

end Pairing

/-- Pairing and chaining are one way to put parsers in a sequence, whatever the parsers do
before they fail: two parsers in a pair agree with a chain that keeps both values, three in a
triple with two pairs, and any two bracketings of the same parsers agree with each other.
They have the same values, grouped differently, the same failures, and the same cursor after
both. -/
theorem Pairing.agrees_regroup {αs : List Type} {s : Pairing αs α} {t : Pairing αs β}
    (h : s.parsers = t.parsers) :
    (s.toParser.map (s.regroup t)).Agrees t.toParser ∧
    (∀ {γ δ : Type} (p : Parser γ) (q : Parser δ),
      (p.zip q).Agrees (p.flatMap fun a ↦ q.map fun b ↦ (a, b))) ∧
    ∀ {γ δ ε : Type} (p : Parser γ) (q : Parser δ) (r : Parser ε),
      (p.zip3 q r).Agrees (((p.zip q).zip r).map fun v ↦ (v.1.1, v.1.2, v.2)) :=
  ⟨map_regroup_agrees h, zip_agrees_flatMap, fun p q r ↦ (zip_assoc_agrees p q r).symm⟩

/-- A character, a text, and a parser that puts another text in the place of the source, and
fails there unless the source ends.  In both bracketings the cursor of the failure is the
start, although the pairs that put it back are different ones; a success has the same three
values. -/
theorem Pairing.agrees_regroup_replaced :
    let elsewhere : Parser Nat := ⟨fun c ↦
      some ⟨if c.atEnd then .ok 7 else .error (.rejected ['n', 'o'] c.rest), .start ['n'], []⟩⟩
    let s : Pairing [Char, Unit, Nat] ((Char × Unit) × Nat) :=
      .both (.both (.one .anyChar) (.one (.literal ['(']))) (.one elsewhere)
    let t : Pairing [Char, Unit, Nat] (Char × Unit × Nat) :=
      .both (.one .anyChar) (.both (.one (.literal ['('])) (.one elsewhere))
    let c : Cursor := .start ['é', '(', 'x']
    s.parsers = t.parsers ∧
      s.toParser.Fails c (.rejected ['n', 'o'] ['x']) c ∧
      t.toParser.Fails c (.rejected ['n', 'o'] ['x']) c ∧
      s.toParser.Succeeds (.start ['é', '(']) (('é', ()), 7) (.start ['n']) ∧
      t.toParser.Succeeds (.start ['é', '(']) ('é', (), 7) (.start ['n']) := by
  intro elsewhere s t c
  have h : s.parsers = t.parsers := rfl
  have hagrees := agrees_iff.mp (agrees_regroup h).1
  have hfail : s.toParser.Fails c (.rejected ['n', 'o'] ['x']) c := ⟨_, rfl⟩
  have hsucceed : s.toParser.Succeeds (.start ['é', '(']) (('é', ()), 7) (.start ['n']) :=
    ⟨_, rfl⟩
  refine ⟨h, hfail, ?_, hsucceed, ?_⟩
  · exact ((hagrees c).2 _ _).mp (fails_map.mpr hfail)
  · exact ((hagrees _).1 _ _).mp (succeeds_map.mpr ⟨_, hsucceed, rfl⟩)

end Backtrack.Parser
