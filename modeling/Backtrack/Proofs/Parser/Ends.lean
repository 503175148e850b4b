import Backtrack.Proofs.Parser.Outcome

/-!
# Parsers that come to an end

No combinator goes on for ever by itself: it comes to an end if the parts do that it runs,
each from where it runs them.  A later part need only come to an end where an earlier one
succeeded, and an alternative where those before it failed.
-/

namespace Backtrack.Parser

variable {α β : Type} {p : Parser α} {c : Cursor}

/-- From `c`, the parser comes to an end. -/
def Ends (p : Parser α) (c : Cursor) : Prop := ∃ r, p.parse c = some r

theorem ends_iff : p.Ends c ↔ (∃ a d, p.Succeeds c a d) ∨ ∃ e d, p.Fails c e d := by
  constructor
  · rintro ⟨⟨e | a, d, es⟩, h⟩
    · exact .inr ⟨e, d, es, h⟩
    · exact .inl ⟨a, d, es, h⟩
  · rintro (⟨a, d, es, h⟩ | ⟨e, d, es, h⟩)
    · exact ⟨_, h⟩
    · exact ⟨_, h⟩

theorem Succeeds.ends {a : α} {d : Cursor} (h : p.Succeeds c a d) : p.Ends c :=
  ends_iff.mpr (.inl ⟨a, d, h⟩)

theorem Fails.ends {e : Failure} {d : Cursor} (h : p.Fails c e d) : p.Ends c :=
  ends_iff.mpr (.inr ⟨e, d, h⟩)

/-! ## Lexical parsers -/

theorem ends_anyChar : anyChar.Ends c := by
  cases h : c.peek with
  | none => exact (fails_anyChar.mpr ⟨h, rfl, rfl⟩).ends
  | some x => exact (succeeds_anyChar.mpr ⟨h, rfl⟩).ends

theorem ends_literal (x : Text) : (literal x).Ends c := by
  cases h : x.isPrefixOf c.rest with
  | false => exact (fails_literal.mpr ⟨h, rfl, rfl⟩).ends
  | true => exact (succeeds_literal (u := ()).mpr ⟨h, rfl⟩).ends

theorem ends_span (accepts : Char → Bool) : (span accepts).Ends c :=
  ⟨_, parse_span accepts c⟩

theorem ends_integer : integer.Ends c := by
  cases h : Numeral.read 10 (c.rest.takeWhile Text.isNumeric) with
  | error fault => exact (fails_integer.mpr ⟨⟨fault, h⟩, rfl, rfl⟩).ends
  | ok n => exact (succeeds_integer.mpr ⟨h, rfl⟩).ends

/-! ## Combinators -/

theorem Ends.map (f : α → β) (h : p.Ends c) : (p.map f).Ends c := by
  rcases ends_iff.mp h with ⟨a, d, h⟩ | ⟨e, d, h⟩
  · exact (succeeds_map.mpr ⟨a, h, rfl⟩).ends
  · exact (fails_map.mpr h).ends

theorem Ends.tryMap (f : α → Except Text β) (h : p.Ends c) : (p.tryMap f).Ends c := by
  rcases ends_iff.mp h with ⟨a, d, h⟩ | ⟨e, d, h⟩
  · cases hf : f a with
    | error reason => exact (fails_tryMap.mpr (.inr ⟨a, reason, h, hf, rfl⟩)).ends
    | ok b => exact (succeeds_tryMap.mpr ⟨a, h, hf⟩).ends
  · exact (fails_tryMap.mpr (.inl h)).ends

theorem Ends.filter (keep : α → Bool) (reason : Text) (h : p.Ends c) :
    (p.filter keep reason).Ends c := by
  rcases ends_iff.mp h with ⟨a, d, h⟩ | ⟨e, d, h⟩
  · cases hk : keep a with
    | false => exact (fails_filter.mpr (.inr ⟨⟨a, d, h, hk⟩, rfl, rfl⟩)).ends
    | true => exact (succeeds_filter.mpr ⟨h, hk⟩).ends
  · exact (fails_filter.mpr (.inl h)).ends

theorem Ends.zip {q : Parser β} (hp : p.Ends c) (hq : ∀ a m, p.Succeeds c a m → q.Ends m) :
    (p.zip q).Ends c := by
  rcases ends_iff.mp hp with ⟨a, m, ha⟩ | ⟨e, d, h⟩
  · rcases ends_iff.mp (hq a m ha) with ⟨b, d, hb⟩ | ⟨e, stop, h⟩
    · exact (succeeds_zip (v := (a, b)).mpr ⟨m, ha, hb⟩).ends
    · exact (fails_zip.mpr (.inr ⟨⟨a, m, stop, ha, h⟩, rfl⟩)).ends
  · exact (fails_zip.mpr (.inl h)).ends

theorem Ends.flatMap {k : α → Parser β} (hp : p.Ends c)
    (hk : ∀ a m, p.Succeeds c a m → (k a).Ends m) : (p.flatMap k).Ends c := by
  rcases ends_iff.mp hp with ⟨a, m, ha⟩ | ⟨e, d, h⟩
  · rcases ends_iff.mp (hk a m ha) with ⟨b, d, hb⟩ | ⟨e, stop, h⟩
    · exact (succeeds_flatMap.mpr ⟨a, m, ha, hb⟩).ends
    · exact (fails_flatMap.mpr (.inr ⟨⟨a, m, stop, ha, h⟩, rfl⟩)).ends
  · exact (fails_flatMap.mpr (.inl h)).ends

theorem Ends.orElse {q : Parser α} (hp : p.Ends c) (hq : ∀ e d, p.Fails c e d → q.Ends c) :
    (p.orElse q).Ends c := by
  rcases ends_iff.mp hp with ⟨a, d, ha⟩ | ⟨e₁, d₁, h₁⟩
  · exact (succeeds_orElse.mpr (.inl ha)).ends
  · rcases ends_iff.mp (hq e₁ d₁ h₁) with ⟨a, d, ha⟩ | ⟨e₂, d₂, h₂⟩
    · exact (succeeds_orElse.mpr (.inr ⟨⟨e₁, d₁, h₁⟩, ha⟩)).ends
    · exact (fails_orElse.mpr ⟨⟨e₁, e₂, ⟨d₁, h₁⟩, ⟨d₂, h₂⟩, rfl⟩, rfl⟩).ends

/-- Either some alternative is the first to succeed or all of them fail, if each comes to an
end as soon as those before it have failed. -/
theorem firstSucceeds_or_allFail {ps : List (Parser α)}
    (h : ∀ before q after, ps = before ++ q :: after →
      (∀ b ∈ before, ∃ e d, b.Fails c e d) → q.Ends c) :
    (∃ a d, FirstSucceeds c ps a d) ∨ ∃ es, AllFail c ps es := by
  induction ps with
  | nil => exact .inr ⟨[], .nil⟩
  | cons p ps ih =>
      have hp : p.Ends c := h [] p ps rfl (by simp)
      rcases ends_iff.mp hp with ⟨a, d, ha⟩ | ⟨e, d, he⟩
      · exact .inl ⟨a, d, .head ha⟩
      · have hps := ih fun before q after hsplit hbefore ↦
          h (p :: before) q after (congrArg (p :: ·) hsplit)
            (List.forall_mem_cons.mpr ⟨⟨e, d, he⟩, hbefore⟩)
        rcases hps with ⟨a, d', ha⟩ | ⟨es, hes⟩
        · exact .inl ⟨a, d', .tail he ha⟩
        · exact .inr ⟨e :: es, .cons ⟨d, he⟩ hes⟩

theorem Ends.choice {ps : List (Parser α)}
    (h : ∀ before q after, p :: ps = before ++ q :: after →
      (∀ b ∈ before, ∃ e d, b.Fails c e d) → q.Ends c) :
    (Parser.choice p ps).Ends c := by
  rcases firstSucceeds_or_allFail h with ⟨a, d, ha⟩ | ⟨es, hes⟩
  · exact (succeeds_choice.mpr ha).ends
  · exact (fails_choice.mpr ⟨⟨es, hes, rfl⟩, rfl⟩).ends

theorem ends_boolean : boolean.Ends c := by
  have hor : ∀ x y, ((literal x).orElse (literal y)).Ends c := fun x y ↦
    .orElse (ends_literal x) fun _ _ _ ↦ ends_literal y
  exact .orElse ((hor _ _).map _) fun _ _ _ ↦ (hor _ _).map _

end Backtrack.Parser
