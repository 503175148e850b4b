import Backtrack.Proofs.Grammar.Calls
import Backtrack.Proofs.Parser.Forward

/-!
# Grammars on boundaries

A script may move the cursor anywhere, but only by advancing it and by starting over, so
from a boundary it goes to boundaries.  Hence so do grammars with scripts, and all that they
run: however a grammar comes to an end, and even if it comes to none, the cursor is never
inside a character (`Grammar.Touches.onBoundary`).
-/

namespace Backtrack

/-- Moves that keep a cursor on a boundary, of its own text or of another one. -/
abbrev Cursor.KeepsBoundary (c d : Cursor) : Prop := c.OnBoundary → d.OnBoundary

theorem Cursor.motion_keepsBoundary : Motion KeepsBoundary where
  refl _ hc := hc
  trans h h' hc := h' (h hc)
  advance c n _ := c.onBoundary_advance n

namespace Script

variable {α : Type}

/-- The cursors that a script goes through, from its start to its end. -/
def trail : Script α → Cursor → List Cursor
  | stop _, c => [c]
  | advance n next, c => c :: next.trail (c.advance n)
  | rewind next, c => c :: next.trail (.start c.source)
  | replace text next, c => c :: next.trail (.start text)
  | observe next, c => (next c).trail c

theorem cursor_run_mem_trail (s : Script α) (c : Cursor) : (s.run c).2 ∈ s.trail c := by
  induction s generalizing c with
  | stop outcome => exact List.mem_singleton_self c
  | advance n next ih => exact List.mem_cons_of_mem c (ih _)
  | rewind next ih => exact List.mem_cons_of_mem c (ih _)
  | replace text next ih => exact List.mem_cons_of_mem c (ih _)
  | observe next ih => exact ih c c

theorem onBoundary_trail (s : Script α) {c : Cursor} (hc : c.OnBoundary) :
    ∀ d ∈ s.trail c, d.OnBoundary := by
  induction s generalizing c with
  | stop outcome => exact List.forall_mem_singleton.mpr hc
  | advance n next ih => exact List.forall_mem_cons.mpr ⟨hc, ih (c.onBoundary_advance n)⟩
  | rewind next ih => exact List.forall_mem_cons.mpr ⟨hc, ih (Cursor.onBoundary_start _)⟩
  | replace text next ih => exact List.forall_mem_cons.mpr ⟨hc, ih (Cursor.onBoundary_start _)⟩
  | observe next ih => exact ih c hc

theorem moves_toParser (s : Script α) : s.toParser.Moves Cursor.KeepsBoundary := by
  refine Parser.moves_iff.mpr fun c r hr hc ↦ ?_
  obtain rfl := Option.some.inj hr
  exact s.onBoundary_trail hc _ (s.cursor_run_mem_trail c)

end Script

namespace Grammar

variable {rules : Rules}

theorem parser_moves (rules : Rules) (depth : Nat) (g : Grammar) :
    (g.parser rules depth).Moves Cursor.KeepsBoundary :=
  (Parser.compositional_moves Cursor.motion_keepsBoundary).parser_of
    (.inr fun s ↦ s.moves_toParser) depth

theorem Succeeds.onBoundary {g : Grammar} {c d : Cursor} {v : Value}
    (h : g.Succeeds rules c v d) (hc : c.OnBoundary) : d.OnBoundary := by
  obtain ⟨depth, h⟩ := h
  exact (parser_moves rules depth g).succeeds h hc

theorem Fails.onBoundary {g : Grammar} {c d : Cursor} {e : Failure}
    (h : g.Fails rules c e d) (hc : c.OnBoundary) : d.OnBoundary := by
  obtain ⟨depth, h⟩ := h
  exact (parser_moves rules depth g).fails h hc

theorem Calls.onBoundary {u v : Grammar × Cursor} (h : Calls rules u v) :
    u.2.OnBoundary → v.2.OnBoundary := by
  intro hu
  cases h with
  | zipSecond ha => exact ha.onBoundary hu
  | zip3Second ha => exact ha.onBoundary hu
  | zip3Third ha hb => exact hb.onBoundary (ha.onBoundary hu)
  | flatMapNext ha => exact ha.onBoundary hu
  | _ => exact hu

theorem Visits.onBoundary {u v : Grammar × Cursor} (h : Visits rules u v)
    (hu : u.2.OnBoundary) : v.2.OnBoundary := by
  induction h with
  | refl => exact hu
  | tail _ hcall ih => exact hcall.onBoundary ih

/-- A cursor that there is while a grammar runs: where one of the grammars that it comes to
run starts or ends, and where a script among them goes on the way. -/
inductive Touches (rules : Rules) (u : Grammar × Cursor) : Cursor → Prop
  | start {g : Grammar} {d : Cursor} : Visits rules u (g, d) → Touches rules u d
  | succeeds {g : Grammar} {c d : Cursor} {v : Value} :
      Visits rules u (g, c) → g.Succeeds rules c v d → Touches rules u d
  | fails {g : Grammar} {c d : Cursor} {e : Failure} :
      Visits rules u (g, c) → g.Fails rules c e d → Touches rules u d
  | script {s : Script Value} {c d : Cursor} :
      Visits rules u (.script s, c) → d ∈ s.trail c → Touches rules u d

theorem Touches.onBoundary {u : Grammar × Cursor} {d : Cursor} (h : Touches rules u d)
    (hu : u.2.OnBoundary) : d.OnBoundary := by
  cases h with
  | start hv => exact hv.onBoundary hu
  | succeeds hv hg => exact hg.onBoundary (hv.onBoundary hu)
  | fails hv hg => exact hg.onBoundary (hv.onBoundary hu)
  | script hv hd => exact Script.onBoundary_trail _ (hv.onBoundary hu) _ hd

end Grammar

end Backtrack
