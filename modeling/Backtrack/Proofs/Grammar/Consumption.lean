import Backtrack.Parser.Run
import Backtrack.Proofs.Grammar.Depth
import Backtrack.Proofs.Parser.Forward

/-!
# What a grammar consumes

However a grammar without scripts comes to an end, it leaves the text as it is and the cursor
not before its start, even where a failure leaves the cursor moved.  So a success consumes a
text, namely the one between its two cursors, and a sequence consumes what its stages
consume, one after the other (`parse_consumes`).
-/

namespace Backtrack.Grammar

variable {rules : Rules} {g : Grammar} {c d : Cursor} {v : Value}

theorem parse_reaches (hr : rules.ScriptFree) (hg : g.ScriptFree) {depth : Nat}
    {r : Reply Value} (hc : c.WellFormed) (h : (g.parser rules depth).parse c = some r) :
    c.Reaches r.cursor :=
  Parser.moves_iff.mp
    ((Parser.compositional_moves Cursor.motion_reaches).parser hr depth hg) c r h hc

theorem Succeeds.reaches (hr : rules.ScriptFree) (hg : g.ScriptFree) (hc : c.WellFormed)
    (h : g.Succeeds rules c v d) : c.Reaches d := by
  obtain ⟨depth, es, h⟩ := h
  exact parse_reaches hr hg hc h

/-- From `c`, the grammar succeeds with the value `v` and consumes the text `t` up to `d`. -/
structure Takes (g : Grammar) (rules : Rules) (c : Cursor) (t : Text) (v : Value)
    (d : Cursor) : Prop where
  succeeds : g.Succeeds rules c v d
  consumes : c.Consumes t d

theorem Succeeds.exists_takes (hr : rules.ScriptFree) (hg : g.ScriptFree) (hc : c.WellFormed)
    (h : g.Succeeds rules c v d) : (∃ t, g.Takes rules c t v d) ∧ d.WellFormed := by
  have hreach := h.reaches hr hg hc
  obtain ⟨t, ht⟩ := hc.reaches_iff.mp hreach
  exact ⟨⟨t, h, ht⟩, hreach.wellFormed⟩

/-! ## Sequences -/

/-- A grammar that runs several stages, one after the other. -/
inductive IsSequence : Grammar → Prop
  | zip (a b : Grammar) : IsSequence (.zip a b)
  | zip3 (a b b' : Grammar) : IsSequence (.zip3 a b b')
  | flatMap (a : Grammar) (k : Value → Grammar) : IsSequence (.flatMap a k)

/-- The stages of the sequence succeed from `c` up to `d`, each from where the one before it
stopped, and consume the texts of the list; the value is what the sequence makes of theirs. -/
inductive Stages (rules : Rules) : Grammar → Cursor → List Text → Value → Cursor → Prop
  | zip {a b : Grammar} {c m d : Cursor} {s t : Text} {v w : Value} :
      a.Takes rules c s v m → b.Takes rules m t w d →
        Stages rules (.zip a b) c [s, t] (.tuple [v, w]) d
  | zip3 {a b b' : Grammar} {c m m' d : Cursor} {s t u : Text} {v w x : Value} :
      a.Takes rules c s v m → b.Takes rules m t w m' → b'.Takes rules m' u x d →
        Stages rules (.zip3 a b b') c [s, t, u] (.tuple [v, w, x]) d
  | flatMap {a : Grammar} {k : Value → Grammar} {c m d : Cursor} {s t : Text} {v w : Value} :
      a.Takes rules c s v m → (k v).Takes rules m t w d →
        Stages rules (.flatMap a k) c [s, t] w d

/-- A sequence consumes what its stages consume, in order. -/
theorem Stages.consumes {ts : List Text} (h : Stages rules g c ts v d) :
    c.Consumes ts.flatten d := by
  cases h with
  | zip ha hb => simpa using ha.consumes.append hb.consumes
  | zip3 ha hb hb' => simpa using ha.consumes.append (hb.consumes.append hb'.consumes)
  | flatMap ha hk => simpa using ha.consumes.append hk.consumes

theorem Succeeds.exists_stages (hr : rules.ScriptFree) (hg : g.ScriptFree) (hc : c.WellFormed)
    (hseq : g.IsSequence) (h : g.Succeeds rules c v d) : ∃ ts, Stages rules g c ts v d := by
  obtain ⟨depth, h⟩ := h
  cases hseq with
  | zip a b =>
      cases hg with
      | zip hga hgb =>
          obtain ⟨⟨x, y⟩, hxy, rfl⟩ := Parser.succeeds_map.mp h
          obtain ⟨m, hx, hy⟩ := Parser.succeeds_zip.mp hxy
          obtain ⟨⟨s, hs⟩, hm⟩ := Succeeds.exists_takes hr hga hc ⟨depth, hx⟩
          obtain ⟨⟨t, ht⟩, -⟩ := Succeeds.exists_takes hr hgb hm ⟨depth, hy⟩
          exact ⟨[s, t], .zip hs ht⟩
  | zip3 a b b' =>
      cases hg with
      | zip3 hga hgb hgb' =>
          obtain ⟨⟨x, y, z⟩, hxyz, rfl⟩ := Parser.succeeds_map.mp h
          obtain ⟨m, hx, hyz⟩ := Parser.succeeds_zip.mp hxyz
          obtain ⟨m', hy, hz⟩ := Parser.succeeds_zip.mp hyz
          obtain ⟨⟨s, hs⟩, hm⟩ := Succeeds.exists_takes hr hga hc ⟨depth, hx⟩
          obtain ⟨⟨t, ht⟩, hm'⟩ := Succeeds.exists_takes hr hgb hm ⟨depth, hy⟩
          obtain ⟨⟨u, hu⟩, -⟩ := Succeeds.exists_takes hr hgb' hm' ⟨depth, hz⟩
          exact ⟨[s, t, u], .zip3 hs ht hu⟩
  | flatMap a k =>
      cases hg with
      | flatMap hga hgk =>
          obtain ⟨x, m, hx, hy⟩ := Parser.succeeds_flatMap.mp h
          obtain ⟨⟨s, hs⟩, hm⟩ := Succeeds.exists_takes hr hga hc ⟨depth, hx⟩
          obtain ⟨⟨t, ht⟩, -⟩ := Succeeds.exists_takes hr (hgk x) hm ⟨depth, hy⟩
          exact ⟨[s, t], .flatMap hs ht⟩

/-! ## Moving forward -/

/-- A run that succeeds leaves what comes after the bytes that it consumed. -/
theorem exists_consumed_of_run (hr : rules.ScriptFree) (hg : g.ScriptFree) {depth : Nat}
    {input rest : Text} {es : List Event} (hinput : input.Addressable)
    (h : (g.parser rules depth).run input = some ⟨.ok (v, rest), d, es⟩) :
    ∃ consumed, input.takeBytes? d.position = some consumed ∧ input = consumed ++ rest := by
  rw [Parser.run_eq] at h
  split at h
  · cases h
  · next a m es' hp =>
      cases h
      have hreach := parse_reaches hr hg (Cursor.wellFormed_start hinput) hp
      obtain ⟨consumed, htake, hsplit⟩ := hreach.wellFormed.onBoundary.exists_consumed
      rw [hreach.source] at htake hsplit
      exact ⟨consumed, htake, hsplit⟩
  · cases h

/-- However a grammar without scripts comes to an end, it keeps the text, moves the cursor to
no place before its start, and leaves an end of what was left.  A run that succeeds cuts its
input into the bytes before the cursor and the rest that it gives.  A sequence that succeeds
consumes exactly what its stages consume, each from where the one before it stopped. -/
theorem parse_consumes (hr : rules.ScriptFree) (hg : g.ScriptFree) :
    (∀ depth c r, c.WellFormed → (g.parser rules depth).parse c = some r →
      r.cursor.source = c.source ∧ c.position ≤ r.cursor.position ∧
        r.cursor.rest <:+ c.rest) ∧
    (∀ depth (input : Text) v rest d es, input.Addressable →
      (g.parser rules depth).run input = some ⟨.ok (v, rest), d, es⟩ →
        ∃ consumed, input.takeBytes? d.position = some consumed ∧ input = consumed ++ rest) ∧
    ∀ c v d, c.WellFormed → g.IsSequence → g.Succeeds rules c v d →
      ∃ ts, Stages rules g c ts v d ∧ c.Consumes ts.flatten d := by
  refine ⟨fun depth c r hc h ↦ ?_, fun depth input v rest d es hinput h ↦ ?_,
    fun c v d hc hseq h ↦ ?_⟩
  · have hreach := parse_reaches hr hg hc h
    exact ⟨hreach.source, hreach.position, hreach.rest_suffix⟩
  · exact exists_consumed_of_run hr hg hinput h
  · obtain ⟨ts, hts⟩ := h.exists_stages hr hg hc hseq
    exact ⟨ts, hts, hts.consumes⟩

/-- A rule reads an accented letter and refuses all others, without putting the cursor back.
After an `x` the sequence consumes three characters in two stages; at the `x` it fails and
has moved forward. -/
theorem accents_consumed :
    let rules : Rules := fun _ ↦
      .tryMap .anyChar fun v ↦ if v = .char 'é' then .ok v else .error ['n', 'o']
    let g : Grammar := .flatMap (.rule "accented") fun _ ↦
      .zip (.span fun ch ↦ ch = 'a') (.rule "accented")
    let v : Value := .tuple [.str ['a'], .char 'é']
    let input : Text := ['é', 'a', 'é', '!']
    let text : Text := 'x' :: input
    rules.ScriptFree ∧ g.ScriptFree ∧ (Cursor.mk text 1).WellFormed ∧ g.IsSequence ∧
      g.Succeeds rules ⟨text, 1⟩ v ⟨text, 6⟩ ∧
      (∃ ts, Stages rules g ⟨text, 1⟩ ts v ⟨text, 6⟩ ∧ ts.flatten = ['é', 'a', 'é']) ∧
      (∃ r, (g.parser rules 1).parse (.start text) = some r ∧ r.cursor = ⟨text, 1⟩ ∧
        r.cursor.source = text ∧ 0 ≤ r.cursor.position ∧ r.cursor.rest <:+ text) ∧
      ∃ es consumed, (g.parser rules 1).run input = some ⟨.ok (v, ['!']), ⟨input, 5⟩, es⟩ ∧
        input.takeBytes? 5 = some consumed ∧ input = consumed ++ ['!'] := by
  intro rules g v input text
  have hr : rules.ScriptFree := fun _ ↦ .tryMap _ .anyChar
  have hg : g.ScriptFree := .flatMap (.rule _) fun _ ↦ .zip (.span _) (.rule _)
  have hc : (Cursor.mk text 1).WellFormed := ⟨⟨['x'], input, rfl, rfl⟩, by decide⟩
  have hs : g.Succeeds rules ⟨text, 1⟩ v ⟨text, 6⟩ := ⟨1, [], rfl⟩
  have hconsumes : (Cursor.mk text 1).Consumes ['é', 'a', 'é'] ⟨text, 6⟩ := ⟨rfl, rfl, rfl⟩
  obtain ⟨hforward, hrun, hstages⟩ := parse_consumes hr hg
  obtain ⟨ts, hts, htext⟩ := hstages _ _ _ hc (.flatMap _ _) hs
  have hstart := hforward 1 (.start text) _ (Cursor.wellFormed_start (by decide)) rfl
  obtain ⟨consumed, hconsumed⟩ := hrun 1 input v ['!'] _ _ (by decide) rfl
  exact ⟨hr, hg, hc, .flatMap _ _, hs, ⟨ts, hts, htext.unique hconsumes⟩,
    ⟨_, rfl, rfl, hstart⟩, _, consumed, rfl, hconsumed⟩

end Backtrack.Grammar
