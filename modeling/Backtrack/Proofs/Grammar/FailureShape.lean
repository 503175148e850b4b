import Backtrack.Proofs.Failure.Shape
import Backtrack.Proofs.Grammar.Depth
import Backtrack.Proofs.Parser.Forward

/-!
# The failures of a grammar

A parser that goes forward is descending if its failures descend from what was left
where it started.  Grammars without scripts are descending, because a failure either
comes from an earlier cursor's rest or is an exhausted choice of such failures.
-/

namespace Backtrack

namespace Parser

variable {α : Type}

/-- The parser goes forward, and its failures descend from the rest at its start. -/
structure Descending (p : Parser α) : Prop extends Forward p where
  descends {c d : Cursor} {e : Failure} : c.WellFormed → p.Fails c e d → e.Descends c.rest

/-- A refusal where the parser stopped descends from the rest at its start. -/
theorem descends_rejected {c d : Cursor} (h : c.Reaches d) (reason : Text) :
    Failure.Descends c.rest (.rejected reason d.rest) := by
  refine .leaf (fun h ↦ nomatch h) fun r hr ↦ ?_
  cases hr
  exact h.rest_suffix

theorem compositional_descending : Compositional @Descending where
  endless := ⟨compositional_forward.endless, fun _ h ↦ absurd h fails_endless⟩
  always a := ⟨compositional_forward.always a, fun _ h ↦ absurd h fails_always⟩
  never := by
    refine ⟨compositional_forward.never, fun hc h ↦ ?_⟩
    obtain ⟨rfl, _⟩ := fails_never.mp h
    exact .leaf (fun h ↦ nomatch h) fun r hr ↦ nomatch hr
  anyChar := by
    refine ⟨compositional_forward.anyChar, fun hc h ↦ ?_⟩
    obtain ⟨_, rfl, _⟩ := fails_anyChar.mp h
    refine .leaf (fun h ↦ nomatch h) fun r hr ↦ ?_
    cases hr
    exact List.nil_suffix
  literal x := by
    refine ⟨compositional_forward.literal x, fun hc h ↦ ?_⟩
    obtain ⟨_, rfl, _⟩ := fails_literal.mp h
    refine .leaf (fun h ↦ nomatch h) fun r hr ↦ ?_
    cases hr
    exact List.suffix_refl _
  span accepts := ⟨compositional_forward.span accepts, fun _ h ↦ absurd h fails_span⟩
  integer := by
    refine ⟨compositional_forward.integer, fun hc h ↦ ?_⟩
    obtain ⟨_, rfl, _⟩ := fails_integer.mp h
    refine .leaf (fun h ↦ nomatch h) fun r hr ↦ ?_
    cases hr
    exact List.suffix_refl _
  map f hp :=
    ⟨compositional_forward.map f hp.toForward, fun hc h ↦ hp.descends hc (fails_map.mp h)⟩
  tryMap f hp := by
    refine ⟨compositional_forward.tryMap f hp.toForward, fun hc h ↦ ?_⟩
    rcases fails_tryMap.mp h with h | ⟨a, reason, ha, _, rfl⟩
    · exact hp.descends hc h
    · exact descends_rejected (hp.succeeds hc ha) reason
  filter keep reason hp := by
    refine ⟨compositional_forward.filter keep reason hp.toForward, fun hc h ↦ ?_⟩
    rcases fails_filter.mp h with h | ⟨_, rfl, _⟩
    · exact hp.descends hc h
    · exact descends_rejected (.refl hc) reason
  zip hp hq := by
    refine ⟨compositional_forward.zip hp.toForward hq.toForward, fun hc h ↦ ?_⟩
    rcases fails_zip.mp h with h | ⟨⟨a, m, stop, ha, h⟩, _⟩
    · exact hp.descends hc h
    · have hm := hp.succeeds hc ha
      exact (hq.descends hm.wellFormed h).mono hm.rest_suffix
  flatMap hp hk := by
    refine ⟨compositional_forward.flatMap hp.toForward fun a ↦ (hk a).toForward,
      fun hc h ↦ ?_⟩
    rcases fails_flatMap.mp h with h | ⟨⟨a, m, stop, ha, h⟩, _⟩
    · exact hp.descends hc h
    · have hm := hp.succeeds hc ha
      exact ((hk a).descends hm.wellFormed h).mono hm.rest_suffix
  orElse hp hq := by
    refine ⟨compositional_forward.orElse hp.toForward hq.toForward, fun hc h ↦ ?_⟩
    obtain ⟨⟨e₁, e₂, ⟨_, h₁⟩, ⟨_, h₂⟩, rfl⟩, _⟩ := fails_orElse.mp h
    refine Failure.descends_exhausted (List.cons_ne_nil _ _) fun e he ↦ ?_
    rcases List.mem_pair.mp he with rfl | rfl
    · exact hp.descends hc h₁
    · exact hq.descends hc h₂
  choice hp hqs := by
    refine ⟨compositional_forward.choice hp.toForward fun q hq ↦ (hqs q hq).toForward,
      fun hc h ↦ ?_⟩
    obtain ⟨⟨es, hes, rfl⟩, _⟩ := fails_choice.mp h
    refine Failure.descends_exhausted hes.ne_nil fun e he ↦ ?_
    obtain ⟨q, hq, _, hd⟩ := hes.exists_of_mem he
    rcases List.mem_cons.mp hq with rfl | hq
    · exact hp.descends hc hd
    · exact (hqs q hq).descends hc hd

end Parser

namespace Grammar

theorem Fails.descends {g : Grammar} {rules : Rules} {c d : Cursor} {e : Failure}
    (hr : rules.ScriptFree) (hg : g.ScriptFree) (hc : c.WellFormed) (h : g.Fails rules c e d) :
    e.Descends c.rest := by
  obtain ⟨depth, h⟩ := h
  exact (Parser.compositional_descending.parser hr depth hg).descends hc h

/-- The tree of every failure of a grammar without scripts: each recorded place is an end
of what was left at the start and of the place of the choice around it, choices have
attempts, choices at one place are merged, and so the likely cause is no choice. -/
theorem Fails.tree_shape {g : Grammar} {rules : Rules} {c d : Cursor} {e : Failure}
    (hr : rules.ScriptFree) (hg : g.ScriptFree) (hc : c.WellFormed) (h : g.Fails rules c e d) :
    (∀ n ∈ e.nodes, ∀ r, n.rest? = some r → r <:+ c.rest) ∧
      (∀ (r : Text) as, .noAlternative r as ∈ e.nodes →
        as ≠ [] ∧ (∀ a ∈ as, ∀ s, a.rest? = some s → s <:+ r) ∧
          ∀ (s : Text) bs, .noAlternative s bs ∈ as → s.byteSize < r.byteSize) ∧
      e.likely.kind ≠ .noAlternative := by
  have hd := h.descends hr hg hc
  refine ⟨fun n hn r hnr ↦ (hd.of_mem_nodes hn).rest_suffix hnr, ?_, hd.kind_likely⟩
  intro r as hn
  cases hd.of_mem_nodes hn with
  | leaf hk => exact absurd rfl hk
  | noAlternative _ hne has hlt => exact ⟨hne, fun a ha s hs ↦ (has a ha).rest_suffix hs, hlt⟩

/-- Parentheses that are not closed around a wrong letter: three choices fail inside each
other, each further on than the one around it. -/
theorem unclosed_tree_shape :
    let rules : Rules := fun _ ↦
      .choice (.literal ['a']) [.zip (.literal ['(']) (.rule "value")]
    let g : Grammar := .orElse (.rule "value") (.literal ['é'])
    let c : Cursor := .start ['(', '(', 'x']
    let e : Failure := .noAlternative ['(', '(', 'x']
      [.missingLiteral ['a'] ['(', '(', 'x'],
        .noAlternative ['(', 'x']
          [.missingLiteral ['a'] ['(', 'x'],
            .noAlternative ['x'] [.missingLiteral ['a'] ['x'], .missingLiteral ['('] ['x']]],
        .missingLiteral ['é'] ['(', '(', 'x']]
    rules.ScriptFree ∧ g.ScriptFree ∧ c.WellFormed ∧ g.Fails rules c e c ∧
      (∀ n ∈ e.nodes, ∀ r, n.rest? = some r → r <:+ c.rest) ∧
      (∀ (r : Text) as, .noAlternative r as ∈ e.nodes →
        as ≠ [] ∧ (∀ a ∈ as, ∀ s, a.rest? = some s → s <:+ r) ∧
          ∀ (s : Text) bs, .noAlternative s bs ∈ as → s.byteSize < r.byteSize) ∧
      e.likely.kind ≠ .noAlternative := by
  intro rules g c e
  have hr : rules.ScriptFree := by
    refine fun _ ↦ .choice (.literal _) fun b hb ↦ ?_
    obtain rfl := List.mem_singleton.mp hb
    exact .zip (.literal _) (.rule _)
  have hg : g.ScriptFree := .orElse (.rule _) (.literal _)
  have hc : c.WellFormed := Cursor.wellFormed_start (by decide)
  have h : g.Fails rules c e c := ⟨3, _, rfl⟩
  exact ⟨hr, hg, hc, h, Fails.tree_shape hr hg hc h⟩

end Grammar

end Backtrack
