import Backtrack.Proofs.Grammar.Runs
import Backtrack.Proofs.Trace

/-!
# What a trace says

A trace mixes what is noted at all levels of a grammar: a sequence notes something behind
what its parts have noted, and a choice behind what each alternative has noted.  So before
one can say that a message is right, one has to say whose message it is.

A run notes something itself when one of its parts has failed (`Notes`).  The trace of a
grammar has exactly the events that are noted in this way by the runs that the grammar comes
to, each where that run notes it (`Replies.located_iff`).  With that, the messages say what is
the case: what is taken back, how much is consumed, and which alternatives were given up
(`trace_accurate`).  The same holds of the lines that show them, since a line tells which event
it is for.
-/

namespace Backtrack.Grammar

variable {rules : Rules} {g a b : Grammar} {c : Cursor} {u w : Grammar × Cursor}
  {r : Reply Value} {depth : Nat} {pre own es : List Event} {x : Event}
  {k : Value → Grammar} {report : Cursor → Cursor → Failure → Event}

/-! ## Whose message it is -/

/-- The grammar, run from the cursor, itself notes the event, when it and its parts have
noted the others. -/
inductive Notes (rules : Rules) : Grammar × Cursor → List Event → Event → Prop
  | stage {g a : Grammar} {k : Value → Grammar} {report : Cursor → Cursor → Failure → Event}
      {c m stop : Cursor} {v : Value} {e : Failure} {es fs : List Event} :
      Staged g a k report → Replies rules (a, c) ⟨.ok v, m, es⟩ →
        Replies rules (k v, m) ⟨.error e, stop, fs⟩ →
          Notes rules (g, c) (es ++ fs) (report c stop e)
  | orElse {a b : Grammar} {c d : Cursor} {e : Failure} {es : List Event} :
      Replies rules (a, c) ⟨.error e, d, es⟩ → Notes rules (.orElse a b, c) es (.firstFailed e)
  | alternative {a b : Grammar} {bs before after : List Grammar} {c d : Cursor} {e : Failure}
      {xs : List Attempt} {es : List Event} :
      a :: bs = before ++ b :: after → GiveUp rules c before xs →
        Replies rules (b, c) ⟨.error e, d, es⟩ →
          Notes rules (.choice a bs, c) (givenUp 0 xs ++ es)
            (.alternativeFailed before.length e)

/-- The event is noted by one of the runs that `u` comes to, and what stands before it is
what is noted before that run begins and then what that run has noted. -/
def Located (rules : Rules) (u : Grammar × Cursor) (pre : List Event) (x : Event) : Prop :=
  ∃ seen own w, ComesTo rules u seen w ∧ Notes rules w own x ∧ pre = seen ++ own

theorem Notes.located (h : Notes rules u own x) : Located rules u own x :=
  ⟨[], own, u, .refl, h, rfl⟩

theorem Located.of_starts (hstart : Starts rules u es w) (h : Located rules w pre x) :
    Located rules u (es ++ pre) x := by
  obtain ⟨seen, own, w', hw, hnotes, rfl⟩ := h
  exact ⟨es ++ seen, own, w', .head hstart hw, hnotes, (List.append_assoc ..).symm⟩

/-- To the given depth, whatever the grammar's traces have in them is located. -/
def Accounted (rules : Rules) (depth : Nat) (g : Grammar) : Prop :=
  ∀ c r, (g.parser rules depth).parse c = some r →
    ∀ pre x, pre ++ [x] <+: r.events → Located rules (g, c) pre x

theorem accounted_of_silent (h : (g.parser rules depth).Silent) : Accounted rules depth g := by
  intro c r hr pre x hx
  rw [h c r hr] at hx
  simp at hx

theorem Accounted.wraps (hwraps : Wraps g a) (h : Accounted rules depth a) :
    Accounted rules depth g := by
  intro c r hr pre x hx
  obtain ⟨s, hs, hevents⟩ := hwraps.ends hr
  exact .of_starts (.wrapped hwraps) (h c s hs pre x (hevents ▸ hx))

theorem Accounted.staged (hstaged : Staged g a k report) (ha : Accounted rules depth a)
    (hk : ∀ v, Accounted rules depth (k v)) : Accounted rules depth g := by
  intro c r hr pre x hx
  have hseq := hstaged.sequenced hr
  generalize r.events = rs at hseq hx
  cases hseq with
  | failed hfirst => exact .of_starts (.stage hstaged) (ha c _ hfirst pre x hx)
  | @through v v' m d es fs hfirst hnext =>
      rcases concat_prefix_append hx with hes | ⟨own, rfl, hfs⟩
      · exact .of_starts (.stage hstaged) (ha c _ hfirst pre x hes)
      · exact .of_starts (.nextStage hstaged ⟨depth, hfirst⟩) (hk v m _ hnext own x hfs)
  | @takenBack v e m stop es fs hfirst hnext =>
      rcases concat_prefix_append hx with hes | ⟨own, rfl, hfs⟩
      · exact .of_starts (.stage hstaged) (ha c _ hfirst pre x hes)
      · rcases concat_prefix_append hfs with hfs | ⟨rest, rfl, hnote⟩
        · exact .of_starts (.nextStage hstaged ⟨depth, hfirst⟩) (hk v m _ hnext own x hfs)
        · obtain ⟨rfl, rfl⟩ := concat_prefix_singleton hnote
          rw [List.append_nil]
          exact (Notes.stage hstaged ⟨depth, hfirst⟩ ⟨depth, hnext⟩).located

theorem Accounted.orElse (ha : Accounted rules depth a) (hb : Accounted rules depth b) :
    Accounted rules depth (.orElse a b) := by
  intro c r hr pre x hx
  rcases Parser.orElse_ends hr with ⟨v, d, hfirst⟩ | ⟨e, d, es, s, hfirst, hsecond, hevents⟩
  · exact .of_starts .orElse (ha c _ hfirst pre x hx)
  · rw [hevents] at hx
    rcases concat_prefix_append hx with hes | ⟨own, rfl, hown⟩
    · exact .of_starts .orElse (ha c _ hfirst pre x hes)
    · rcases concat_prefix_cons hown with ⟨rfl, rfl⟩ | ⟨rest, rfl, hrest⟩
      · rw [List.append_nil]
        exact (Notes.orElse ⟨depth, hfirst⟩).located
      · rw [← List.singleton_append, ← List.append_assoc]
        exact .of_starts (.orElseSecond ⟨depth, hfirst⟩) (hb c s hsecond rest x hrest)

theorem Accounted.choice {bs : List Grammar} (h : ∀ b ∈ a :: bs, Accounted rules depth b) :
    Accounted rules depth (.choice a bs) := by
  intro c r hr pre x hx
  obtain ⟨before, b, after, xs, s, hsplit, hxs, hs, hplace⟩ := (tried_choice hr).noted hx
  have hbefore : GiveUp rules c before xs := by
    refine hxs.imp ?_
    rintro q y ⟨d, hq⟩
    exact ⟨d, depth, hq⟩
  have hb : b ∈ a :: bs := List.mem_iff_append.mpr ⟨before, after, hsplit⟩
  rcases hplace with ⟨own, rfl, hown⟩ | ⟨e, he, rfl, rfl⟩
  · exact .of_starts (.alternative hsplit hbefore) (h b hb c s hs own x hown)
  · obtain ⟨o, d, es⟩ := s
    cases he
    rw [Nat.zero_add]
    exact (Notes.alternative hsplit hbefore ⟨depth, hs⟩).located

theorem accounted_of_rules (hrules : ∀ name, Accounted rules depth (.rule name))
    (g : Grammar) : Accounted rules depth g := by
  have hliteral : ∀ expected, Accounted rules depth (.literal expected) := fun expected ↦
    accounted_of_silent ((Parser.silent_literal expected).map _)
  induction g with
  | anyChar => exact accounted_of_silent (Parser.silent_anyChar.map _)
  | integer => exact accounted_of_silent (Parser.silent_integer.map _)
  | boolean =>
      -- Its parts are not parts of the grammar, so the induction says nothing about them.
      have horElse := fun x y ↦ (hliteral x).orElse (hliteral y)
      exact .wraps .boolean
        (.orElse (.wraps (.map _ _) (horElse _ _)) (.wraps (.map _ _) (horElse _ _)))
  | literal expected => exact hliteral expected
  | span accepts => exact accounted_of_silent ((Parser.silent_span accepts).map _)
  | always v =>
      refine accounted_of_silent fun c r h ↦ ?_
      cases h
      rfl
  | never =>
      refine accounted_of_silent fun c r h ↦ ?_
      cases h
      rfl
  | script s =>
      refine accounted_of_silent fun c r h ↦ ?_
      cases h
      rfl
  | zip a b iha ihb => exact .staged (.pair (.zip a b)) iha fun _ ↦ ihb
  | zip3 a b b' iha ihb ihb' =>
      exact .staged (.pair (.zip3 a b b')) iha fun _ ↦ .staged (.pair (.zip b b')) ihb fun _ ↦ ihb'
  | orElse a b iha ihb => exact iha.orElse ihb
  | choice a bs iha ihbs =>
      refine .choice fun b hb ↦ ?_
      rcases List.mem_cons.mp hb with rfl | hb
      · exact iha
      · exact ihbs b hb
  | map a f iha => exact .wraps (.map a f) iha
  | tryMap a f iha => exact .wraps (.tryMap a f) iha
  | filter a keep reason iha => exact .wraps (.filter a keep reason) iha
  | flatMap a k iha ihk => exact .staged (.flatMap a k) iha ihk
  | rule name => exact hrules name

/-- Every message in a trace is noted by a run that the grammar comes to, at the place where
the message stands. -/
theorem accounted (rules : Rules) (depth : Nat) (g : Grammar) : Accounted rules depth g := by
  refine accounted_of_rules (fun name ↦ ?_) g
  induction depth generalizing name with
  | zero => exact fun c r hr ↦ (nomatch hr)
  | succ depth ih =>
      exact fun c r hr pre x hx ↦
        .of_starts .rule (accounted_of_rules ih (rules name) c r hr pre x hx)

/-- What a run notes itself stands in its trace. -/
theorem Notes.placed (h : Notes rules u own x) (hu : Replies rules u r) :
    own ++ [x] <+: r.events := by
  cases h with
  | stage hstaged ha hk =>
      obtain ⟨s, hs, -, hnote⟩ := hu.nextStage hstaged ha
      cases hk.unique hs
      rw [List.append_assoc]
      exact hnote _ rfl
  | orElse ha =>
      obtain ⟨s, -, hevents⟩ := hu.orElseSecond ha
      exact concat_prefix_of_eq hevents
  | alternative hsplit hbefore hb =>
      obtain ⟨s, hs, -, hnote⟩ := hu.alternative hsplit hbefore
      cases hb.unique hs
      rw [List.append_assoc]
      exact hnote _ rfl

/-- A trace has exactly those events in it, at their places, that are noted by the runs the
grammar comes to. -/
theorem Replies.located_iff (h : Replies rules u r) :
    pre ++ [x] <+: r.events ↔ Located rules u pre x := by
  constructor
  · intro hx
    obtain ⟨depth, hr⟩ := h
    exact accounted rules depth u.1 u.2 r hr pre x hx
  · rintro ⟨seen, own, w, hcomes, hnotes, rfl⟩
    obtain ⟨s, hs, hprefix⟩ := hcomes.placed h
    rw [List.append_assoc]
    exact ((List.prefix_append_right_inj seen).mpr (hnotes.placed hs)).trans hprefix

/-! ## What the messages say -/

/-- A pair whose second part fails takes `m` bytes back: as many as there are from its start
to where the second part stopped.  The first part has consumed no more than that, and
exactly as much if the second part stopped where it had started. -/
inductive TakesBack (rules : Rules) : Grammar × Cursor → List Event → Nat → Prop
  | intro {g a b : Grammar} {c mid stop : Cursor} {v : Value} {e : Failure}
      {es fs : List Event} {t : Text} {m : Nat} :
      IsPair g a b → Replies rules (a, c) ⟨.ok v, mid, es⟩ →
        Replies rules (b, mid) ⟨.error e, stop, fs⟩ → c.Consumes t mid →
          stop.position = c.position + m → t.byteSize ≤ m → (stop = mid ↔ m = t.byteSize) →
            TakesBack rules (g, c) (es ++ fs) m

theorem TakesBack.notes {m : Nat} (h : TakesBack rules u own m) :
    Notes rules u own (.rolledBack m) := by
  cases h with
  | @intro g a b c mid stop v e es fs t m hpair ha hb _ hm _ _ =>
      have hnote : Notes rules (g, c) (es ++ fs) (.rolledBack (stop.position - c.position)) :=
        .stage (.pair hpair) ha hb
      rwa [hm, Nat.add_sub_cancel_left] at hnote

theorem Notes.takesBack {m : Nat} (hr : rules.ScriptFree) (hu : u.1.ScriptFree)
    (hc : u.2.WellFormed) (h : Notes rules u own (.rolledBack m)) : TakesBack rules u own m := by
  generalize hx : Event.rolledBack m = x at h
  cases h with
  | @stage g a k report c mid stop v e es fs hstaged ha hk =>
      obtain ⟨hfree, hkfree⟩ := hstaged.scriptFree hu
      have hmid := ha.reaches hr hfree hc
      have hstop := hk.reaches hr (hkfree v) hmid.wellFormed
      obtain ⟨t, ht⟩ := hc.reaches_iff.mp hmid
      have hposition : mid.position = c.position + t.byteSize := ht.position
      have hforward : mid.position ≤ stop.position := hstop.position
      cases hstaged with
      | pair hpair =>
          cases hx
          refine .intro hpair ha hk ht (by omega) (by omega) ⟨?_, fun hm ↦ ?_⟩
          · rintro rfl
            omega
          · exact Cursor.ext hstop.source (by omega)
      | flatMap => cases hx
  | orElse _ => cases hx
  | alternative _ _ _ => cases hx

/-- No part of a grammar says how much the whole run consumed. -/
theorem Replies.not_consumed (h : Replies rules u r) (p n : Nat) :
    .consumed p n ∉ r.events := by
  intro hmem
  obtain ⟨before, after, hsplit⟩ := List.mem_iff_append.mp hmem
  obtain ⟨seen, own, w, -, hnotes, -⟩ := h.located_iff.mp (concat_prefix_of_eq hsplit)
  generalize hx : Event.consumed p n = x at hnotes
  cases hnotes with
  | stage hstaged _ _ =>
      cases hstaged with
      | pair _ => cases hx
      | flatMap => cases hx
  | orElse _ => cases hx
  | alternative _ _ _ => cases hx

/-- A run is that of the grammar from the start of the input, and a note behind it if it
succeeds. -/
theorem replies_of_run {input : Text} {r : Reply (Value × Text)}
    (h : (g.parser rules depth).run input = some r) :
    ∃ s, Replies rules (g, .start input) s ∧
      ((∃ v, s.outcome = .ok v ∧ r = ⟨.ok (v, s.cursor.rest), s.cursor,
          s.events ++ [.consumed s.cursor.position input.byteSize]⟩) ∨
        ∃ e, r = ⟨.error e, s.cursor, s.events⟩) := by
  rw [Parser.run_eq] at h
  split at h
  · cases h
  · next v d es hp =>
      cases h
      exact ⟨_, ⟨depth, hp⟩, .inl ⟨v, rfl, rfl⟩⟩
  · next e d es hp =>
      cases h
      exact ⟨_, ⟨depth, hp⟩, .inr ⟨e, rfl⟩⟩

section

variable {input : Text} {result : Reply (Value × Text)}

/-- What a run consumes and what is left make up the input. -/
theorem Replies.position_add_byteSize_rest (hr : rules.ScriptFree) (hg : g.ScriptFree)
    (hinput : input.Addressable) (h : Replies rules (g, .start input) r) :
    r.cursor.position + r.cursor.rest.byteSize = input.byteSize := by
  have hreach := h.reaches hr hg (Cursor.wellFormed_start hinput)
  obtain ⟨consumed, hcut, hsize⟩ := hreach.wellFormed.onBoundary.exists_before
  have hsplit : input = consumed ++ r.cursor.rest := hreach.source.symm.trans hcut
  rw [← hsize, ← Text.byteSize_append, ← hsplit]

/-- The line of a whole run is none of those that show what a grammar notes. -/
theorem Replies.not_run_line (h : Replies rules u r) :
    ∀ line ∈ r.events.map Event.message, ¬ "run: ".toList <+: line := by
  intro line hline hrun
  obtain ⟨x, hx, rfl⟩ := List.mem_map.mp hline
  obtain ⟨p, n, rfl⟩ := Event.exists_consumed_of_prefix hrun
  exact h.not_consumed p n hx

/-- The note of the whole run stands behind all places where something is taken back. -/
theorem run_takenBack_iff (hr : rules.ScriptFree) (hg : g.ScriptFree) (hinput : input.Addressable)
    (h : (g.parser rules depth).run input = some result) {m : Nat} :
    pre ++ [.rolledBack m] <+: result.events ↔
      ∃ seen own w, ComesTo rules (g, .start input) seen w ∧ TakesBack rules w own m ∧
        pre = seen ++ own := by
  obtain ⟨s, hs, hends⟩ := replies_of_run h
  have hplace : pre ++ [.rolledBack m] <+: result.events ↔
      pre ++ [.rolledBack m] <+: s.events := by
    rcases hends with ⟨v, -, rfl⟩ | ⟨e, rfl⟩
    · constructor
      · intro hrun
        rcases concat_prefix_append hrun with hplace | ⟨own, -, hnote⟩
        · exact hplace
        · cases (concat_prefix_singleton hnote).2
      · exact fun hplace ↦ hplace.trans (List.prefix_append _ _)
    · rfl
  rw [hplace, hs.located_iff]
  constructor
  · rintro ⟨seen, own, w, hcomes, hnotes, rfl⟩
    obtain ⟨hfree, hw⟩ := hcomes.wellFormed hr hg (Cursor.wellFormed_start hinput)
    exact ⟨seen, own, w, hcomes, hnotes.takesBack hr hfree hw, rfl⟩
  · rintro ⟨seen, own, w, hcomes, hback, rfl⟩
    exact ⟨seen, own, w, hcomes, hback.notes, rfl⟩

theorem run_takenBack_line_iff (hr : rules.ScriptFree) (hg : g.ScriptFree)
    (hinput : input.Addressable) (h : (g.parser rules depth).run input = some result)
    {lines : List Text} {m : Nat} :
    lines ++ ["zip: second parser failed, rolling back ".toList ++ Numeral.decimal m ++
        " bytes".toList] <+: result.events.map Event.message ↔
      ∃ seen own w, ComesTo rules (g, .start input) seen w ∧ TakesBack rules w own m ∧
        lines = (seen ++ own).map Event.message := by
  rw [Event.concat_prefix_map_message]
  constructor
  · rintro ⟨pre, x, rfl, hx, hplace⟩
    obtain rfl := Event.message_eq_rolledBack.mp hx.symm
    obtain ⟨seen, own, w, hcomes, hback, rfl⟩ := (run_takenBack_iff hr hg hinput h).mp hplace
    exact ⟨seen, own, w, hcomes, hback, rfl⟩
  · rintro ⟨seen, own, w, hcomes, hback, rfl⟩
    exact ⟨seen ++ own, .rolledBack m, rfl, (Event.message_eq_rolledBack.mpr rfl).symm,
      (run_takenBack_iff hr hg hinput h).mpr ⟨seen, own, w, hcomes, hback, rfl⟩⟩

end

/-- The trace of a run of the grammar on the input says what is the case, and so do the lines
that show it. -/
structure AccurateTrace (rules : Rules) (g : Grammar) (input : Text)
    (r : Reply (Value × Text)) : Prop where
  /-- A run that succeeds says once how much it consumed, at the end, and that is all but the
  rest. -/
  consumed : ∀ v rest, r.outcome = .ok (v, rest) →
    ∃ es p, r.events = es ++ [.consumed p input.byteSize] ∧
      p + rest.byteSize = input.byteSize ∧ (∀ q n, .consumed q n ∉ es) ∧
      r.events.map Event.message = es.map Event.message ++
        ["run: consumed ".toList ++ Numeral.decimal p ++ " of ".toList ++
          Numeral.decimal input.byteSize ++ " bytes".toList] ∧
      ∀ line ∈ es.map Event.message, ¬ "run: ".toList <+: line
  /-- A run that fails does not say it. -/
  not_consumed : ∀ e, r.outcome = .error e →
    (∀ p n, .consumed p n ∉ r.events) ∧
      ∀ line ∈ r.events.map Event.message, ¬ "run: ".toList <+: line
  /-- A number of bytes is taken back exactly where a pair is run whose second part fails so
  many bytes behind its start. -/
  takenBack_iff : ∀ before m, before ++ [.rolledBack m] <+: r.events ↔
    ∃ seen own w, ComesTo rules (g, .start input) seen w ∧ TakesBack rules w own m ∧
      before = seen ++ own
  /-- And exactly there a line says so, behind the lines for what is noted before. -/
  takenBack_line_iff : ∀ lines m,
    lines ++ ["zip: second parser failed, rolling back ".toList ++ Numeral.decimal m ++
        " bytes".toList] <+: r.events.map Event.message ↔
      ∃ seen own w, ComesTo rules (g, .start input) seen w ∧ TakesBack rules w own m ∧
        lines = (seen ++ own).map Event.message
  /-- No line says something else of a pair. -/
  exists_takenBack : ∀ line ∈ r.events.map Event.message, "zip: ".toList <+: line →
    ∃ m, line = "zip: second parser failed, rolling back ".toList ++ Numeral.decimal m ++
      " bytes".toList
  /-- Wherever a choice is run, its trace stands there, and has the notes for its alternatives
  in order, from the first one to the last one or to the one before that which succeeded. -/
  choice : ∀ seen a bs c, ComesTo rules (g, .start input) seen (.choice a bs, c) →
    ∃ s, Replies rules (.choice a bs, c) s ∧ seen ++ s.events <+: r.events ∧
      Parser.Counted (fun b t ↦ Replies rules (b, c) t) c 0 (a :: bs) s ∧
      seen.map Event.message ++ s.events.map Event.message <+: r.events.map Event.message ∧
      ((∃ e xs, s.outcome = .error e ∧ GiveUp rules c (a :: bs) xs ∧
          s.events.map Event.message = givenUpLines xs) ∨
        ∃ v before b after xs es, s.outcome = .ok v ∧ a :: bs = before ++ b :: after ∧
          GiveUp rules c before xs ∧ Replies rules (b, c) ⟨.ok v, s.cursor, es⟩ ∧
          s.events.map Event.message = givenUpLines xs ++ es.map Event.message)
  /-- No part that is run is left out. -/
  visited : ∀ w, Visits rules (g, .start input) w →
    ∃ seen, ComesTo rules (g, .start input) seen w

/-- The trace of a run of a grammar without scripts is accurate.  It ends with how much was
consumed exactly if the run succeeds, says what is taken back exactly where that happens, and
numbers the alternatives that are given up.  Its lines say the same. -/
theorem trace_accurate (hr : rules.ScriptFree) (hg : g.ScriptFree) {input : Text}
    (hinput : input.Addressable) {r : Reply (Value × Text)}
    (h : (g.parser rules depth).run input = some r) : AccurateTrace rules g input r := by
  obtain ⟨s, hs, hends⟩ := replies_of_run h
  -- The run's own note stands behind everything that the grammar has noted.
  have hprefix : s.events <+: r.events := by
    rcases hends with ⟨v, -, rfl⟩ | ⟨e, rfl⟩
    · exact List.prefix_append _ _
    · exact List.prefix_rfl
  constructor
  case consumed =>
    intro v rest hv
    rcases hends with ⟨v', -, rfl⟩ | ⟨e, rfl⟩
    · cases hv
      exact ⟨s.events, s.cursor.position, rfl, hs.position_add_byteSize_rest hr hg hinput,
        hs.not_consumed, List.map_append, hs.not_run_line⟩
    · cases hv
  case not_consumed =>
    intro e he
    rcases hends with ⟨v', -, rfl⟩ | ⟨e', rfl⟩
    · cases he
    · exact ⟨hs.not_consumed, hs.not_run_line⟩
  case takenBack_iff => exact fun before m ↦ run_takenBack_iff hr hg hinput h
  case takenBack_line_iff => exact fun lines m ↦ run_takenBack_line_iff hr hg hinput h
  case exists_takenBack =>
    intro line hline hzip
    obtain ⟨x, -, rfl⟩ := List.mem_map.mp hline
    obtain ⟨m, rfl⟩ := Event.exists_rolledBack_of_prefix hzip
    exact ⟨m, Event.message_eq_rolledBack.mpr rfl⟩
  case choice =>
    intro seen a bs c hcomes
    obtain ⟨t, ht, hplace⟩ := hcomes.placed hs
    have hcounted := ht.tried.counted
    refine ⟨t, ht, hplace.trans hprefix, hcounted, ?_, hcounted.lines⟩
    rw [← List.map_append]
    exact (hplace.trans hprefix).map Event.message
  case visited => exact fun w hw ↦ hw.exists_comesTo

/-- A rule reads an accented letter and refuses all others, behind them.  The pair takes back
one byte more than its first part consumed.  The trace has two notes for an alternative with
the number zero, and the second one is that of the inner choice. -/
theorem trace_accurate_accents :
    let rules : Rules := fun _ ↦
      .tryMap .anyChar fun v ↦ if v = .char 'é' then .ok v else .error ['n', 'o']
    let pair : Grammar := .zip (.rule "accent") (.rule "accent")
    let inner : Grammar := .choice (.literal ['a']) [.rule "accent"]
    let g : Grammar := .choice pair [inner]
    let input : Text := ['é', '1']
    let seen : List Event := [.rolledBack 3, .alternativeFailed 0 (.rejected ['n', 'o'] [])]
    let es : List Event := seen ++ [.alternativeFailed 0 (.missingLiteral ['a'] input)]
    let r : Reply (Value × Text) :=
      ⟨.ok (.char 'é', ['1']), ⟨input, 2⟩, es ++ [.consumed 2 3]⟩
    rules.ScriptFree ∧ g.ScriptFree ∧ input.Addressable ∧
      (g.parser rules 1).run input = some r ∧
      r.events.map Event.message =
        ["zip: second parser failed, rolling back 3 bytes".toList,
          "choice: alternative 0 failed: no at \"\"".toList,
          "choice: alternative 0 failed: expected \"a\", found \"é1\"".toList,
          "run: consumed 2 of 3 bytes".toList] ∧
      (∃ seen own w, ComesTo rules (g, .start input) seen w ∧ TakesBack rules w own 3 ∧
        [] = (seen ++ own).map Event.message) ∧
      ComesTo rules (g, .start input) seen (inner, .start input) ∧
      AccurateTrace rules g input r := by
  intro rules pair inner g input seen es r
  have hr : rules.ScriptFree := fun _ ↦ .tryMap _ .anyChar
  have hinner : inner.ScriptFree := .choice (.literal _) fun b hb ↦ by
    cases List.mem_singleton.mp hb
    exact .rule _
  have hg : g.ScriptFree := .choice (.zip (.rule _) (.rule _)) fun b hb ↦ by
    cases List.mem_singleton.mp hb
    exact hinner
  have hinput : input.Addressable := by decide
  have hrun : (g.parser rules 1).run input = some r := rfl
  have hpair : GiveUp rules (.start input) [pair]
      [⟨.rejected ['n', 'o'] [], [.rolledBack 3]⟩] := .cons ⟨.start input, 1, rfl⟩ .nil
  have hcomes : ComesTo rules (g, .start input) seen (inner, .start input) :=
    .head (.alternative (rfl : [pair, inner] = [pair] ++ inner :: []) hpair) .refl
  have haccurate := trace_accurate hr hg hinput hrun
  have hback : [] ++ ["zip: second parser failed, rolling back ".toList ++ Numeral.decimal 3 ++
      " bytes".toList] <+: r.events.map Event.message := ⟨_, rfl⟩
  exact ⟨hr, hg, hinput, hrun, by decide, (haccurate.takenBack_line_iff [] 3).mp hback, hcomes,
    haccurate⟩

end Backtrack.Grammar
