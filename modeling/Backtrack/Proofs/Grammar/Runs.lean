import Backtrack.Proofs.Grammar.Calls
import Backtrack.Proofs.Grammar.Consumption
import Backtrack.Proofs.Parser.Boolean
import Backtrack.Proofs.Parser.Trace

/-!
# The runs of the parts

A grammar that is run from a cursor runs its parts, each from a cursor of its own and behind
what has been noted by then.  `Starts` is one such step, from a grammar and its cursor to a
part and its cursor, with what is noted before the part begins, and `ComesTo` is any number of
them.  They lead to everything that is run (`Visits.exists_comesTo`), and what a part notes
stands in the trace of the whole right behind what is noted before it (`ComesTo.placed`).

Two kinds of grammars are made of others that they do not contain: a triple is a pair whose
second part is a pair, and a truth value is a choice of its spellings.
-/

namespace Backtrack.Grammar

variable {rules : Rules} {g a b : Grammar} {c d : Cursor} {u w : Grammar × Cursor}
  {r s : Reply Value} {depth : Nat} {pre es : List Event}
  {k : Value → Grammar} {report : Cursor → Cursor → Failure → Event}

/-- The grammar, run from the cursor, comes to an end with the reply. -/
def Replies (rules : Rules) (u : Grammar × Cursor) (r : Reply Value) : Prop :=
  ∃ depth, (u.1.parser rules depth).parse u.2 = some r

theorem Replies.unique (h : Replies rules u r) (h' : Replies rules u s) : r = s := by
  obtain ⟨n, h⟩ := h
  obtain ⟨n', h'⟩ := h'
  have hn := parse_mono (Nat.le_max_left n n') h
  have hn' := parse_mono (Nat.le_max_right n n') h'
  exact Option.some.inj (hn.symm.trans hn')

/-! ## Kinds of grammars -/

/-- The spellings of truth values, two at a time, as a grammar. -/
def truthValue : Grammar :=
  .orElse (.map (.orElse (.literal "true".toList) (.literal "True".toList)) fun _ ↦ .bool true)
    (.map (.orElse (.literal "false".toList) (.literal "False".toList)) fun _ ↦ .bool false)

theorem interpret_boolean (env : String → Parser Value) :
    boolean.interpret env = truthValue.interpret env := by
  simp only [truthValue, interpret, Parser.boolean, Parser.map_orElse, Parser.map_map]

/-- The grammar runs one other grammar, and notes nothing itself. -/
inductive Wraps : Grammar → Grammar → Prop
  | boolean : Wraps .boolean truthValue
  | map (a : Grammar) (f : Value → Value) : Wraps (.map a f) a
  | tryMap (a : Grammar) (f : Value → Except Text Value) : Wraps (.tryMap a f) a
  | filter (a : Grammar) (keep : Value → Bool) (reason : Text) :
      Wraps (.filter a keep reason) a

/-- The grammar is a pair of two others.  A triple is a pair whose second part is a pair. -/
inductive IsPair : Grammar → Grammar → Grammar → Prop
  | zip (a b : Grammar) : IsPair (.zip a b) a b
  | zip3 (a b b' : Grammar) : IsPair (.zip3 a b b') a (.zip b b')

/-- The grammar runs a first stage and then one that may depend on its value.  What it notes
when that one fails depends on where the whole started, where the stage stopped, and why. -/
inductive Staged : Grammar → Grammar → (Value → Grammar) →
    (Cursor → Cursor → Failure → Event) → Prop
  | pair {g a b : Grammar} :
      IsPair g a b →
        Staged g a (fun _ ↦ b) fun start stop _ ↦ .rolledBack (stop.position - start.position)
  | flatMap (a : Grammar) (k : Value → Grammar) :
      Staged (.flatMap a k) a k fun _ _ e ↦ .stageFailed e

theorem Wraps.ends (h : Wraps g a) (hr : (g.parser rules depth).parse c = some r) :
    ∃ s, (a.parser rules depth).parse c = some s ∧ s.events = r.events := by
  cases h with
  | boolean =>
      rw [parser, interpret_boolean] at hr
      exact ⟨r, hr, rfl⟩
  | map f =>
      obtain ⟨s, hs, rfl⟩ := Parser.parse_map_eq_some.mp hr
      exact ⟨s, hs, rfl⟩
  | tryMap f =>
      rw [parser, interpret, Parser.parse_tryMap] at hr
      split at hr
      · cases hr
      · next v m es hp =>
          refine ⟨_, hp, ?_⟩
          split at hr <;> cases hr <;> rfl
      · next e m es hp =>
          cases hr
          exact ⟨_, hp, rfl⟩
  | filter keep reason =>
      rw [parser, interpret, Parser.parse_filter] at hr
      split at hr
      · cases hr
      · next v m es hp =>
          refine ⟨_, hp, ?_⟩
          split at hr <;> cases hr <;> rfl
      · next e m es hp =>
          cases hr
          exact ⟨_, hp, rfl⟩

theorem Staged.sequenced (h : Staged g a k report)
    (hr : (g.parser rules depth).parse c = some r) :
    Parser.Sequenced (fun s ↦ (a.parser rules depth).parse c = some s)
      (fun v m s ↦ ((k v).parser rules depth).parse m = some s) (report c) r.events := by
  cases h with
  | pair hpair =>
      cases hpair with
      | zip b =>
          obtain ⟨s, hs, rfl⟩ := Parser.parse_map_eq_some.mp hr
          exact Parser.sequenced_zip hs
      | zip3 b b' =>
          obtain ⟨s, hs, rfl⟩ := Parser.parse_map_eq_some.mp hr
          refine (Parser.sequenced_zip hs).mono (fun v ↦ .tuple [v.1, v.2]) fun _ m s hm ↦ ?_
          exact Parser.parse_map_eq_some.mpr ⟨s, hm, rfl⟩
  | flatMap => exact Parser.sequenced_flatMap hr

/-- A choice tries the parsers of its alternatives, to the same depth. -/
theorem tried_choice {bs : List Grammar}
    (hr : ((Grammar.choice a bs).parser rules depth).parse c = some r) :
    Parser.Tried (fun b s ↦ (b.parser rules depth).parse c = some s) c 0 (a :: bs) r := by
  rw [parser, interpret, interpretAll_eq_map, Parser.parse_choice, ← List.map_cons] at hr
  exact Parser.tried_of_firstOf hr

theorem Replies.tried {bs : List Grammar} (h : Replies rules (.choice a bs, c) r) :
    Parser.Tried (fun b s ↦ Replies rules (b, c) s) c 0 (a :: bs) r := by
  obtain ⟨depth, hr⟩ := h
  exact (tried_choice hr).mono fun b s hs ↦ ⟨depth, hs⟩

/-! ## The runs of the parts -/

/-- From the cursor, the grammars are given up one after the other with these attempts. -/
abbrev GiveUp (rules : Rules) (c : Cursor) : List Grammar → List Attempt → Prop :=
  List.Forall₂ (GivesUp fun b s ↦ Replies rules (b, c) s)

/-- What a choice notes that has given up all alternatives before one of them: the trace of
those, then that of the one, and a note behind it if it fails. -/
theorem Replies.alternative {bs before after : List Grammar} {xs : List Attempt}
    (h : Replies rules (.choice a bs, c) r) (hsplit : a :: bs = before ++ b :: after)
    (hbefore : GiveUp rules c before xs) :
    ∃ s, Replies rules (b, c) s ∧ givenUp 0 xs ++ s.events <+: r.events ∧
      ∀ e, s.outcome = .error e →
        givenUp 0 xs ++ (s.events ++ [.alternativeFailed before.length e]) <+: r.events := by
  have htried := h.tried
  rw [hsplit] at htried
  obtain ⟨t, ht, hevents⟩ := htried.resume (fun _ _ _ h h' ↦ h.unique h') hbefore
  obtain ⟨s, hs, hprefix, hnote⟩ := ht.head
  rw [Nat.zero_add] at hnote
  rw [hevents]
  exact ⟨s, hs, (List.prefix_append_right_inj _).mpr hprefix,
    fun e he ↦ (List.prefix_append_right_inj _).mpr (hnote e he)⟩

/-- What a sequence notes whose first stage succeeds: the traces of both stages, and a note
behind them if the second one fails. -/
theorem Replies.nextStage {m : Cursor} {v : Value} (h : Replies rules (g, c) r)
    (hstaged : Staged g a k report) (hfirst : Replies rules (a, c) ⟨.ok v, m, es⟩) :
    ∃ s, Replies rules (k v, m) s ∧ es ++ s.events <+: r.events ∧
      ∀ e, s.outcome = .error e →
        es ++ (s.events ++ [report c s.cursor e]) <+: r.events := by
  obtain ⟨depth, hr⟩ := h
  have hseq := hstaged.sequenced hr
  generalize r.events = rs at hseq ⊢
  -- The first stage has one reply only, so the sequence has gone on with its value.
  cases hseq with
  | failed ha => cases hfirst.unique ⟨depth, ha⟩
  | through ha hk =>
      cases hfirst.unique ⟨depth, ha⟩
      exact ⟨_, ⟨depth, hk⟩, List.prefix_rfl, fun e he ↦ (nomatch he)⟩
  | takenBack ha hk =>
      cases hfirst.unique ⟨depth, ha⟩
      refine ⟨_, ⟨depth, hk⟩, ⟨_, List.append_assoc _ _ _⟩, fun e he ↦ ?_⟩
      cases he
      exact List.prefix_rfl

/-- What a choice of two notes whose first one fails. -/
theorem Replies.orElseSecond {e : Failure} (h : Replies rules (.orElse a b, c) r)
    (hfirst : Replies rules (a, c) ⟨.error e, d, es⟩) :
    ∃ s, Replies rules (b, c) s ∧ r.events = es ++ .firstFailed e :: s.events := by
  obtain ⟨depth, hr⟩ := h
  rcases Parser.orElse_ends hr with ⟨v, d', ha⟩ | ⟨e', d', es', s, ha, hb, hevents⟩
  · cases hfirst.unique ⟨depth, ha⟩
  · cases hfirst.unique ⟨depth, ha⟩
    exact ⟨s, ⟨depth, hb⟩, hevents⟩

/-- The first grammar, run from its cursor, notes the events and then directly runs the
second one from its own. -/
inductive Starts (rules : Rules) : Grammar × Cursor → List Event → Grammar × Cursor → Prop
  | wrapped {g a : Grammar} {c : Cursor} : Wraps g a → Starts rules (g, c) [] (a, c)
  | rule {name : String} {c : Cursor} : Starts rules (.rule name, c) [] (rules name, c)
  | stage {g a : Grammar} {k : Value → Grammar} {report : Cursor → Cursor → Failure → Event}
      {c : Cursor} :
      Staged g a k report → Starts rules (g, c) [] (a, c)
  | nextStage {g a : Grammar} {k : Value → Grammar}
      {report : Cursor → Cursor → Failure → Event} {c m : Cursor} {v : Value}
      {es : List Event} :
      Staged g a k report → Replies rules (a, c) ⟨.ok v, m, es⟩ →
        Starts rules (g, c) es (k v, m)
  | orElse {a b : Grammar} {c : Cursor} : Starts rules (.orElse a b, c) [] (a, c)
  | orElseSecond {a b : Grammar} {c d : Cursor} {e : Failure} {es : List Event} :
      Replies rules (a, c) ⟨.error e, d, es⟩ →
        Starts rules (.orElse a b, c) (es ++ [.firstFailed e]) (b, c)
  | alternative {a b : Grammar} {bs before after : List Grammar} {c : Cursor}
      {xs : List Attempt} :
      a :: bs = before ++ b :: after → GiveUp rules c before xs →
        Starts rules (.choice a bs, c) (givenUp 0 xs) (b, c)

/-- The first grammar, run from its cursor, comes to run the second one from its own, when
the events are all that it has noted. -/
inductive ComesTo (rules : Rules) : Grammar × Cursor → List Event → Grammar × Cursor → Prop
  | refl {u : Grammar × Cursor} : ComesTo rules u [] u
  | head {u v w : Grammar × Cursor} {es pre : List Event} :
      Starts rules u es v → ComesTo rules v pre w → ComesTo rules u (es ++ pre) w

/-- The trace of a run that is started stands right behind what is noted before it. -/
theorem Starts.placed (h : Starts rules u es w) (hu : Replies rules u r) :
    ∃ s, Replies rules w s ∧ es ++ s.events <+: r.events := by
  cases h with
  | wrapped hwraps =>
      obtain ⟨depth, hr⟩ := hu
      obtain ⟨s, hs, hevents⟩ := hwraps.ends hr
      exact ⟨s, ⟨depth, hs⟩, hevents ▸ List.prefix_rfl⟩
  | rule =>
      obtain ⟨depth, hr⟩ := hu
      cases depth with
      | zero => cases hr
      | succ depth => exact ⟨r, ⟨depth, hr⟩, List.prefix_rfl⟩
  | stage hstaged =>
      obtain ⟨depth, hr⟩ := hu
      have hseq := hstaged.sequenced hr
      generalize r.events = rs at hseq ⊢
      cases hseq with
      | failed ha => exact ⟨_, ⟨depth, ha⟩, List.prefix_rfl⟩
      | through ha _ => exact ⟨_, ⟨depth, ha⟩, List.prefix_append _ _⟩
      | takenBack ha _ => exact ⟨_, ⟨depth, ha⟩, List.prefix_append _ _⟩
  | nextStage hstaged hfirst =>
      obtain ⟨s, hs, hprefix, -⟩ := hu.nextStage hstaged hfirst
      exact ⟨s, hs, hprefix⟩
  | orElse =>
      obtain ⟨depth, hr⟩ := hu
      rcases Parser.orElse_ends hr with ⟨v, d, ha⟩ | ⟨e, d, es, s, ha, _, hevents⟩
      · exact ⟨_, ⟨depth, ha⟩, List.prefix_rfl⟩
      · exact ⟨_, ⟨depth, ha⟩, hevents ▸ List.prefix_append _ _⟩
  | orElseSecond hfirst =>
      obtain ⟨s, hs, hevents⟩ := hu.orElseSecond hfirst
      exact ⟨s, hs, by rw [hevents, List.append_assoc]; exact List.prefix_rfl⟩
  | alternative hsplit hbefore =>
      obtain ⟨s, hs, hprefix, -⟩ := hu.alternative hsplit hbefore
      exact ⟨s, hs, hprefix⟩

theorem ComesTo.placed (h : ComesTo rules u pre w) (hu : Replies rules u r) :
    ∃ s, Replies rules w s ∧ pre ++ s.events <+: r.events := by
  induction h generalizing r with
  | refl => exact ⟨r, hu, List.prefix_rfl⟩
  | head hstart _ ih =>
      obtain ⟨s, hs, hprefix⟩ := hstart.placed hu
      obtain ⟨t, ht, hprefix'⟩ := ih hs
      refine ⟨t, ht, ?_⟩
      rw [List.append_assoc]
      exact ((List.prefix_append_right_inj _).mpr hprefix').trans hprefix

/-! ## All parts that are run -/

theorem ComesTo.trans {v : Grammar × Cursor} (h : ComesTo rules u es v)
    (h' : ComesTo rules v pre w) : ComesTo rules u (es ++ pre) w := by
  induction h with
  | refl => exact h'
  | head hstart _ ih =>
      rw [List.append_assoc]
      exact .head hstart (ih h')

theorem Succeeds.exists_replies {v : Value} (h : g.Succeeds rules c v d) :
    ∃ es, Replies rules (g, c) ⟨.ok v, d, es⟩ := by
  obtain ⟨depth, es, h⟩ := h
  exact ⟨es, depth, h⟩

theorem Fails.exists_replies {e : Failure} (h : g.Fails rules c e d) :
    ∃ es, Replies rules (g, c) ⟨.error e, d, es⟩ := by
  obtain ⟨depth, es, h⟩ := h
  exact ⟨es, depth, h⟩

theorem exists_giveUp {bs : List Grammar} (h : ∀ b ∈ bs, ∃ e d, b.Fails rules c e d) :
    ∃ xs, GiveUp rules c bs xs := by
  induction bs with
  | nil => exact ⟨[], .nil⟩
  | cons b bs ih =>
      obtain ⟨xs, hxs⟩ := ih fun q hq ↦ h q (List.mem_cons_of_mem b hq)
      obtain ⟨e, d, hb⟩ := h b List.mem_cons_self
      obtain ⟨es, hes⟩ := hb.exists_replies
      exact ⟨⟨e, es⟩ :: xs, .cons ⟨d, hes⟩ hxs⟩

/-- One comes to every part that is called, with some trace. -/
theorem Calls.exists_comesTo (h : Calls rules u w) : ∃ pre, ComesTo rules u pre w := by
  have hone : ∀ {es}, Starts rules u es w → ∃ pre, ComesTo rules u pre w :=
    fun hstart ↦ ⟨_, .head hstart .refl⟩
  cases h with
  | zipFirst => exact hone (.stage (.pair (.zip _ _)))
  | zipSecond ha =>
      obtain ⟨es, ha⟩ := ha.exists_replies
      exact hone (.nextStage (.pair (.zip _ _)) ha)
  | zip3First => exact hone (.stage (.pair (.zip3 _ _ _)))
  | @zip3Second a b b' c m v ha =>
      obtain ⟨es, ha⟩ := ha.exists_replies
      have hpair : Starts rules (.zip3 a b b', c) es (.zip b b', m) :=
        .nextStage (.pair (.zip3 a b b')) ha
      exact ⟨_, .head hpair (.head (.stage (.pair (.zip b b'))) .refl)⟩
  | @zip3Third a b b' c m m' v v' ha hb =>
      obtain ⟨es, ha⟩ := ha.exists_replies
      obtain ⟨fs, hb⟩ := hb.exists_replies
      have hpair : Starts rules (.zip3 a b b', c) es (.zip b b', m) :=
        .nextStage (.pair (.zip3 a b b')) ha
      exact ⟨_, .head hpair (.head (.nextStage (.pair (.zip b b')) hb) .refl)⟩
  | orElseFirst => exact hone .orElse
  | orElseSecond ha =>
      obtain ⟨es, ha⟩ := ha.exists_replies
      exact hone (.orElseSecond ha)
  | choice hsplit hbefore =>
      obtain ⟨xs, hxs⟩ := exists_giveUp hbefore
      exact hone (.alternative hsplit hxs)
  | map => exact hone (.wrapped (.map _ _))
  | tryMap => exact hone (.wrapped (.tryMap _ _))
  | filter => exact hone (.wrapped (.filter _ _ _))
  | flatMapFirst => exact hone (.stage (.flatMap _ _))
  | flatMapNext ha =>
      obtain ⟨es, ha⟩ := ha.exists_replies
      exact hone (.nextStage (.flatMap _ _) ha)
  | rule => exact hone .rule

theorem Visits.exists_comesTo (h : Visits rules u w) : ∃ pre, ComesTo rules u pre w := by
  induction h with
  | refl => exact ⟨[], .refl⟩
  | tail _ hcall ih =>
      obtain ⟨es, hv⟩ := ih
      obtain ⟨pre, hw⟩ := hcall.exists_comesTo
      exact ⟨es ++ pre, hv.trans hw⟩

/-! ## Runs without scripts -/

theorem Replies.reaches (h : Replies rules (g, c) r) (hr : rules.ScriptFree)
    (hg : g.ScriptFree) (hc : c.WellFormed) : c.Reaches r.cursor := by
  obtain ⟨depth, h⟩ := h
  exact parse_reaches hr hg hc h

theorem Staged.scriptFree (h : Staged g a k report) (hg : g.ScriptFree) :
    a.ScriptFree ∧ ∀ v, (k v).ScriptFree := by
  cases h with
  | pair hpair =>
      cases hpair with
      | zip => cases hg with | zip ha hb => exact ⟨ha, fun _ ↦ hb⟩
      | zip3 => cases hg with | zip3 ha hb hb' => exact ⟨ha, fun _ ↦ .zip hb hb'⟩
  | flatMap => cases hg with | flatMap ha hk => exact ⟨ha, hk⟩

theorem Wraps.scriptFree (h : Wraps g a) (hg : g.ScriptFree) : a.ScriptFree := by
  cases h with
  | boolean =>
      have hspellings : ∀ x y, (Grammar.orElse (.literal x) (.literal y)).ScriptFree :=
        fun x y ↦ .orElse (.literal x) (.literal y)
      exact .orElse (.map _ (hspellings _ _)) (.map _ (hspellings _ _))
  | _ => cases hg; assumption

/-- A run that is started is of a grammar without scripts, and begins at a boundary. -/
theorem Starts.wellFormed (hr : rules.ScriptFree) (h : Starts rules u es w)
    (hu : u.1.ScriptFree) (hc : u.2.WellFormed) : w.1.ScriptFree ∧ w.2.WellFormed := by
  cases h with
  | wrapped hwraps => exact ⟨hwraps.scriptFree hu, hc⟩
  | rule => exact ⟨hr _, hc⟩
  | stage hstaged => exact ⟨(hstaged.scriptFree hu).1, hc⟩
  | nextStage hstaged hfirst =>
      obtain ⟨ha, hk⟩ := hstaged.scriptFree hu
      exact ⟨hk _, (hfirst.reaches hr ha hc).wellFormed⟩
  | orElse => cases hu with | orElse ha _ => exact ⟨ha, hc⟩
  | orElseSecond _ => cases hu with | orElse _ hb => exact ⟨hb, hc⟩
  | alternative hsplit _ =>
      cases hu with
      | choice ha hbs =>
          rcases List.mem_cons.mp (List.mem_iff_append.mpr ⟨_, _, hsplit⟩) with rfl | hb
          · exact ⟨ha, hc⟩
          · exact ⟨hbs _ hb, hc⟩

theorem ComesTo.wellFormed (hr : rules.ScriptFree) (h : ComesTo rules u pre w)
    (hu : u.1.ScriptFree) (hc : u.2.WellFormed) : w.1.ScriptFree ∧ w.2.WellFormed := by
  induction h with
  | refl => exact ⟨hu, hc⟩
  | head hstart _ ih =>
      obtain ⟨hv, hm⟩ := hstart.wellFormed hr hu hc
      exact ih hv hm

end Backtrack.Grammar
