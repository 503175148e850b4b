import Backtrack.Proofs.Grammar.Boundary
import Backtrack.Session

/-!
# Sessions stay on boundaries

Whatever the steps of a session are, it only ever has cursors on boundaries, those that it
works on and those that it keeps.  So the text before such a cursor and the text behind it
can always be cut apart (`Session.cursors_onBoundary`).
-/

namespace Backtrack.Session

variable {rules : Rules} {depth : Nat}

/-- The session works on the cursor, or keeps a copy of it. -/
def Has (s : Session) (c : Cursor) : Prop := c = s.cursor ∨ ∃ slot, (slot, c) ∈ s.saved

theorem Has.of_moveTo {s : Session} {c d : Cursor} (h : (s.moveTo d).Has c) :
    s.Has c ∨ c = d := by
  rcases h with rfl | hsaved
  · exact .inr rfl
  · exact .inl (.inr hsaved)

/-- What a step does to the cursors: it answers with the one that it works on next, and
those that it has next it had before, or they are at the start of a text, or they come from
the one that it worked on by an advance or as the end of a parse. -/
theorem step_cursors {s s' : Session} {t : Step} {a : Answer}
    (h : s.step rules depth t = some (s', a)) :
    a.cursor = s'.cursor ∧ ∀ c, s'.Has c →
      s.Has c ∨ (∃ text, c = .start text) ∨ (∃ n, c = s.cursor.advance n) ∨
        ∃ (g : Grammar) (r : Reply Value),
          (g.parser rules depth).parse s.cursor = some r ∧ c = r.cursor := by
  cases t with
  | parse g =>
      obtain ⟨r, hr, hs⟩ := Option.map_eq_some_iff.mp h
      cases hs
      exact ⟨rfl, fun c hc ↦ hc.of_moveTo.imp_right fun heq ↦ .inr (.inr ⟨g, r, hr, heq⟩)⟩
  | advance n =>
      cases h
      exact ⟨rfl, fun c hc ↦ hc.of_moveTo.imp_right fun heq ↦ .inr (.inl ⟨n, heq⟩)⟩
  | load text =>
      cases h
      exact ⟨rfl, fun c hc ↦ hc.of_moveTo.imp_right fun heq ↦ .inl ⟨text, heq⟩⟩
  | ask question =>
      cases h
      exact ⟨rfl, fun c hc ↦ .inl hc⟩
  | compare slot =>
      cases h
      exact ⟨rfl, fun c hc ↦ .inl hc⟩
  | save slot =>
      cases h
      refine ⟨rfl, ?_⟩
      rintro c (rfl | ⟨slot', hc⟩)
      · exact .inl (.inl rfl)
      · rcases List.mem_cons.mp hc with hc | hc
        · exact .inl (.inl (congrArg Prod.snd hc))
        · exact .inl (.inr ⟨slot', hc⟩)
  | restore slot =>
      cases h
      refine ⟨rfl, fun c hc ↦ .inl ?_⟩
      rcases hc.of_moveTo with hc | rfl
      · exact hc
      · -- Without a kept copy of that name the cursor stays.
        rcases hkept : s.kept? slot with _ | d
        · exact .inl rfl
        · obtain ⟨before, after, hsaved, _⟩ := List.lookup_eq_some_iff.mp hkept
          exact .inr ⟨slot, hsaved ▸ List.mem_append_right before List.mem_cons_self⟩

/-- All cursors of the session are on boundaries. -/
def OnBoundary (s : Session) : Prop := ∀ c, s.Has c → c.OnBoundary

theorem onBoundary_start (t : Text) : (start t).OnBoundary := by
  rintro c (rfl | ⟨_, hc⟩)
  · exact Cursor.onBoundary_start t
  · cases hc

theorem OnBoundary.step {s s' : Session} {t : Step} {a : Answer} (hs : s.OnBoundary)
    (h : s.step rules depth t = some (s', a)) : s'.OnBoundary := by
  intro c hc
  have hcursor := hs s.cursor (.inl rfl)
  rcases (step_cursors h).2 c hc with hc | ⟨text, rfl⟩ | ⟨n, rfl⟩ | ⟨g, r, hr, rfl⟩
  · exact hs c hc
  · exact Cursor.onBoundary_start text
  · exact Cursor.onBoundary_advance _ n
  · exact Parser.moves_iff.mp (Grammar.parser_moves rules depth g) _ _ hr hcursor

/-- By induction on the steps: each one keeps all cursors on boundaries, and answers with one
of them. -/
theorem OnBoundary.run {s s' : Session} {steps : List Step} {as : List Answer}
    (hs : s.OnBoundary) (h : s.run rules depth steps = some (s', as)) :
    s'.OnBoundary ∧ ∀ a ∈ as, a.cursor.OnBoundary := by
  induction steps generalizing s as with
  | nil =>
      cases h
      exact ⟨hs, by simp⟩
  | cons t ts ih =>
      simp only [Session.run, Option.bind_eq_bind, Option.bind_eq_some_iff, Prod.exists,
        Option.pure_def, Option.some.injEq, Prod.mk.injEq] at h
      obtain ⟨m, a, hm, _, as, hrun, rfl, rfl⟩ := h
      have hmid := hs.step hm
      obtain ⟨hs', has⟩ := ih hmid hrun
      refine ⟨hs', List.forall_mem_cons.mpr ⟨?_, has⟩⟩
      rw [(step_cursors hm).1]
      exact hmid _ (.inl rfl)

/-- Start a session on any text and take any steps.  The cursors that it has then, those
of its answers, and all that there are while a grammar runs from its cursor, stand on a
boundary within their text.  The text is what was consumed followed by what is left, and
asking for the end, for what is left, for the next character or for its parser, one is told
alike whether anything is left. -/
theorem cursors_onBoundary {t : Text} {steps : List Step} {s : Session} {as : List Answer}
    (h : (start t).run rules depth steps = some (s, as)) {c : Cursor}
    (hc : s.Has c ∨ (∃ a ∈ as, a.cursor = c) ∨ ∃ g, Grammar.Touches rules (g, s.cursor) c) :
    c.position ≤ c.source.byteSize ∧ c.source.IsBoundary c.position ∧
      (∃ consumed, c.source.takeBytes? c.position = some consumed ∧
        c.source = consumed ++ c.rest) ∧
      [c.atEnd = true, c.rest = [], c.peek = none,
        ∃ d, Parser.anyChar.Fails c .endOfInput d].TFAE := by
  obtain ⟨hs, has⟩ := (onBoundary_start t).run h
  have hb : c.OnBoundary := by
    rcases hc with hc | ⟨a, ha, rfl⟩ | ⟨g, hc⟩
    · exact hs c hc
    · exact has a ha
    · exact hc.onBoundary (hs s.cursor (.inl rfl))
  exact ⟨hb.le_byteSize, hb, hb.exists_consumed, hb.atEnd_tfae⟩

/-- An advance into an accented letter, a copy, and a script that fails inside the second
character of another text: the cursor is at the end of that text, which is a boundary. -/
theorem replaced_cursor_onBoundary :
    let rules : Rules := fun _ ↦ .never
    let script : Script Value := .replace ['日', '本'] (.advance 4 (.stop (.error .endOfInput)))
    let steps : List Step := [.advance 1, .save "letter", .parse (.script script)]
    let c : Cursor := ⟨['日', '本'], 6⟩
    ∃ s as, (start ['é', '!']).run rules 0 steps = some (s, as) ∧ s.cursor = c ∧
      s.kept? "letter" = some ⟨['é', '!'], 2⟩ ∧ c.position ≤ c.source.byteSize ∧
      c.source.IsBoundary c.position ∧
      (∃ consumed, c.source.takeBytes? c.position = some consumed ∧
        c.source = consumed ++ c.rest) ∧
      [c.atEnd = true, c.rest = [], c.peek = none,
        ∃ d, Parser.anyChar.Fails c .endOfInput d].TFAE := by
  intro rules script steps c
  let s : Session := ⟨c, [("letter", ⟨['é', '!'], 2⟩)]⟩
  have h : ∃ as, (start ['é', '!']).run rules 0 steps = some (s, as) := ⟨_, rfl⟩
  obtain ⟨as, h⟩ := h
  exact ⟨s, as, h, rfl, rfl, cursors_onBoundary h (.inl (.inl rfl))⟩

end Backtrack.Session
