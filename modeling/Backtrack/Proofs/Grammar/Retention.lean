import Backtrack.Proofs.Grammar.FailureShape
import Backtrack.Proofs.Parser.Alternatives
import Backtrack.Script

/-!
# What a choice retains of its alternatives

A choice that fails is to keep the failure of every alternative, and to merge only nested
choices that failed where it stands itself.  It does so for exactly those failures that it can
tell apart by their sizes (`Tries.retains_iff`).  In a grammar without scripts these are all
failures: what is left is always an end of the same text, and choices have attempts
(`retainsAll_of_fails`).  A script can fail with any failure, and so lose itself among the
attempts or slip those of another text in (`retention_fails_for_scripts`).
-/

namespace Backtrack

namespace Parser

variable {α : Type} {combined : Parser α} {alternatives : List (Parser α)} {c : Cursor}
  {es : List Failure}

/-- Where all alternatives fail, the attempts are made of one block for each of them, in order
and by the place of its failure, exactly if every failure that has as many bytes left as there
are at the start, and is a choice, is a choice at the start and has attempts.  Then there are
no fewer attempts than alternatives. -/
theorem Tries.retains_iff (h : Tries combined alternatives) (hes : AllFail c alternatives es) :
    ∃ attempts, combined.Fails c (.noAlternative c.rest attempts) c ∧
      (Failure.RetainsAll c.rest es attempts ↔ ∀ e ∈ es, Failure.Retained c.rest e) ∧
      ((∀ e ∈ es, Failure.Retained c.rest e) → alternatives.length ≤ attempts.length) := by
  have hfails : combined.Fails c (.exhausted c.rest es) c :=
    h.fails_iff.mpr ⟨⟨es, hes, rfl⟩, rfl⟩
  refine ⟨_, hfails, Failure.retainsAll_iff, fun hretained ↦ ?_⟩
  rw [hes.length_eq]
  exact (Failure.retainsAll_iff.mpr hretained).length_le

/-- Two nested choices: one at the start is merged, and the other one, which is a character
further on, stays as it is. -/
theorem Tries.retains_nested :
    let nested : Parser Unit := (literal ['a']).orElse (literal ['b'])
    let further : Parser Unit := ((literal ['é']).zip nested).map fun _ ↦ ()
    let c : Cursor := ⟨['x', 'é', 'y'], 1⟩
    let e₁ : Failure := .noAlternative ['é', 'y']
      [.missingLiteral ['a'] ['é', 'y'], .missingLiteral ['b'] ['é', 'y']]
    let e₂ : Failure := .noAlternative ['y']
      [.missingLiteral ['a'] ['y'], .missingLiteral ['b'] ['y']]
    let attempts : List Failure :=
      [.missingLiteral ['a'] ['é', 'y'], .missingLiteral ['b'] ['é', 'y'], e₂]
    Tries (nested.orElse further) [nested, further] ∧ AllFail c [nested, further] [e₁, e₂] ∧
      (nested.orElse further).Fails c (.noAlternative c.rest attempts) c ∧
      Failure.RetainsAll c.rest [e₁, e₂] attempts ∧ 2 ≤ attempts.length := by
  intro nested further c e₁ e₂ attempts
  have htries := Tries.orElse nested further
  have hes : AllFail c [nested, further] [e₁, e₂] :=
    .cons ⟨_, _, rfl⟩ (.cons ⟨_, _, rfl⟩ .nil)
  have hretained : ∀ e ∈ [e₁, e₂], Failure.Retained c.rest e := by
    refine List.forall_mem_cons.mpr ⟨?_, List.forall_mem_singleton.mpr ?_⟩
    · intro r as h _
      obtain ⟨rfl, rfl⟩ := Failure.noAlternative.inj h
      exact ⟨rfl, List.cons_ne_nil _ _⟩
    · intro r as h hsize
      obtain ⟨rfl, rfl⟩ := Failure.noAlternative.inj h
      exact absurd hsize (by decide)
  have hfails : (nested.orElse further).Fails c (.noAlternative c.rest attempts) c := ⟨_, rfl⟩
  obtain ⟨as, has, hiff, hlength⟩ := htries.retains_iff hes
  obtain ⟨-, rfl⟩ := Failure.noAlternative.inj (has.unique hfails).1
  exact ⟨htries, hes, hfails, hiff.mpr hretained, hlength hretained⟩

/-- Two scripts that fail as choices before a literal.  One has no attempts, and its failure is
gone: there is one attempt for two alternatives.  The other one has put a text of the same size
in the place of the input, and its attempts stand where its failure should. -/
theorem retention_fails_for_scripts :
    let lost : Script Unit := .stop (.error (.noAlternative ['b'] []))
    let foreign : Script Unit :=
      .replace ['x'] (.stop (.error (.noAlternative ['x'] [.never, .endOfInput])))
    let c : Cursor := .start ['b']
    let e : Failure := .missingLiteral ['a'] ['b']
    let es : List Failure := [.noAlternative ['b'] [], e]
    let fs : List Failure := [.noAlternative ['x'] [.never, .endOfInput], e]
    AllFail c [lost.toParser, literal ['a']] es ∧
      (choice lost.toParser [literal ['a']]).Fails c (.noAlternative ['b'] [e]) c ∧
      ¬ Failure.RetainsAll ['b'] es [e] ∧
      AllFail c [foreign.toParser, literal ['a']] fs ∧
      (choice foreign.toParser [literal ['a']]).Fails c
        (.noAlternative ['b'] [.never, .endOfInput, e]) c ∧
      ¬ Failure.RetainsAll ['b'] fs [.never, .endOfInput, e] := by
  intro lost foreign c e es fs
  refine ⟨.cons ⟨_, _, rfl⟩ (.cons ⟨_, _, rfl⟩ .nil), ⟨_, rfl⟩, fun h ↦ ?_,
    .cons ⟨_, _, rfl⟩ (.cons ⟨_, _, rfl⟩ .nil), ⟨_, rfl⟩, fun h ↦ ?_⟩
  · -- Two alternatives need two attempts.
    exact absurd h.length_le (by decide)
  · have hretained := Failure.retainsAll_iff.mp h
    obtain ⟨htext, -⟩ := hretained _ List.mem_cons_self ['x'] _ rfl rfl
    cases htext

end Parser

namespace Grammar

variable {rules : Rules} {c d : Cursor} {e : Failure}

theorem Fails.retained {g : Grammar} (hr : rules.ScriptFree) (hg : g.ScriptFree)
    (hc : c.WellFormed) (h : g.Fails rules c e d) : Failure.Retained c.rest e :=
  (h.descends hr hg hc).retained

/-- When alternatives that are grammars without scripts all fail, a choice of them retains
every failure. -/
theorem retainsAll_of_fails {alternatives : List Grammar} {combined : Parser Value}
    {depth : Nat} (hr : rules.ScriptFree) (hg : ∀ g ∈ alternatives, g.ScriptFree)
    (hc : c.WellFormed)
    (htries : combined.Tries (alternatives.map fun g ↦ g.parser rules depth))
    (h : combined.Fails c e d) :
    ∃ es attempts, Parser.AllFail c (alternatives.map fun g ↦ g.parser rules depth) es ∧
      e = .noAlternative c.rest attempts ∧ Failure.RetainsAll c.rest es attempts := by
  obtain ⟨⟨es, hes, rfl⟩, -⟩ := htries.fails_iff.mp h
  refine ⟨es, _, hes, rfl, Failure.retainsAll_iff.mpr fun e he ↦ ?_⟩
  obtain ⟨p, hp, stop, hfails⟩ := hes.exists_of_mem he
  obtain ⟨g, hgmem, rfl⟩ := List.mem_map.mp hp
  exact Fails.retained hr (hg g hgmem) hc ⟨depth, hfails⟩

end Grammar

end Backtrack
