import Backtrack.Proofs.Grammar.Calls
import Backtrack.Proofs.Grammar.Progress
import Backtrack.Proofs.Parser.Ends

/-!
# Guarded rules come to an end

Rules recur, and a rule that comes back to itself where it started never comes to an end.
That is excluded when every reference in a rule is guarded, that is, when it runs only after
something has been consumed.  Then each unfolding of a rule inside another one starts
strictly further on, also where it belongs to a grammar that was only made from a value.  So
there is an end, and with `n` bytes left no more than `n + 1` unfoldings are inside each
other (`guarded_rules_end`): the first one may start where the grammar does.

A choice puts the cursor back between its alternatives, so the cursor as such gives no
measure.  What decreases is what is left where a rule is unfolded, against the number of
unfoldings that are still allowed there (`Allowance`).
-/

namespace Backtrack

namespace Grammar

/-! ## Guarded references -/

/-- Some reference to a rule in the grammar is not guarded: it stands neither in a part of a
sequence that comes after a consuming part, nor in a grammar that is chosen by the value of a
consuming one. -/
inductive Exposed : Grammar → Prop
  | rule (name : String) : Exposed (.rule name)
  | zipFirst {a b : Grammar} : Exposed a → Exposed (.zip a b)
  | zipSecond {a b : Grammar} : ¬ a.Consuming → Exposed b → Exposed (.zip a b)
  | zip3First {a b b' : Grammar} : Exposed a → Exposed (.zip3 a b b')
  | zip3Second {a b b' : Grammar} : ¬ a.Consuming → Exposed b → Exposed (.zip3 a b b')
  | zip3Third {a b b' : Grammar} :
      ¬ a.Consuming → ¬ b.Consuming → Exposed b' → Exposed (.zip3 a b b')
  | orElseFirst {a b : Grammar} : Exposed a → Exposed (.orElse a b)
  | orElseSecond {a b : Grammar} : Exposed b → Exposed (.orElse a b)
  | choice {a b : Grammar} {bs : List Grammar} :
      b ∈ a :: bs → Exposed b → Exposed (.choice a bs)
  | map {a : Grammar} {f : Value → Value} : Exposed a → Exposed (.map a f)
  | tryMap {a : Grammar} {f : Value → Except Text Value} : Exposed a → Exposed (.tryMap a f)
  | filter {a : Grammar} {keep : Value → Bool} {reason : Text} :
      Exposed a → Exposed (.filter a keep reason)
  | flatMapFirst {a : Grammar} {k : Value → Grammar} : Exposed a → Exposed (.flatMap a k)
  | flatMapNext {a : Grammar} {k : Value → Grammar} {v : Value} :
      ¬ a.Consuming → Exposed (k v) → Exposed (.flatMap a k)

/-- Every reference to a rule in the grammar is guarded. -/
def Guarded (g : Grammar) : Prop := ¬ g.Exposed

end Grammar

/-- Rules whose grammars are all guarded. -/
def Rules.Guarded (rules : Rules) : Prop := ∀ name, (rules name).Guarded

namespace Grammar

variable {rules : Rules} {u w : Grammar × Cursor}

/-! ## Where parts run -/

theorem Calls.scriptFree (hr : rules.ScriptFree) (h : Calls rules u w) (hu : u.1.ScriptFree) :
    w.1.ScriptFree := by
  cases h with
  | rule => exact hr _
  | choice hsplit _ =>
      cases hu with
      | choice ha hbs =>
          rcases List.mem_cons.mp (List.mem_iff_append.mpr ⟨_, _, hsplit⟩) with rfl | hb
          · exact ha
          · exact hbs _ hb
  | flatMapNext _ =>
      cases hu with
      | flatMap _ hk => exact hk _
  | _ => cases hu; assumption

theorem Calls.reaches (hr : rules.ScriptFree) (h : Calls rules u w) (hu : u.1.ScriptFree)
    (hc : u.2.WellFormed) : u.2.Reaches w.2 := by
  cases h with
  | zipSecond ha =>
      cases hu with
      | zip hga _ => exact ha.reaches hr hga hc
  | zip3Second ha =>
      cases hu with
      | zip3 hga _ _ => exact ha.reaches hr hga hc
  | zip3Third ha hb =>
      cases hu with
      | zip3 hga hgb _ =>
          have hm := ha.reaches hr hga hc
          exact hm.trans (hb.reaches hr hgb hm.wellFormed)
  | flatMapNext ha =>
      cases hu with
      | flatMap hga _ => exact ha.reaches hr hga hc
  | _ => exact .refl hc

/-- What runs where the grammar `a` has succeeded is guarded, or less is left there, if it is
guarded for the whole unless `a` is consuming. -/
theorem guarded_or_lt_of_succeeds {g a b : Grammar} {c m : Cursor} {v : Value}
    (hr : rules.ScriptFree) (ha : a.ScriptFree) (hc : c.WellFormed)
    (h : a.Succeeds rules c v m) (hg : g.Guarded)
    (hexposed : ¬ a.Consuming → b.Exposed → g.Exposed) :
    b.Guarded ∨ m.rest.byteSize < c.rest.byteSize := by
  by_cases hcons : a.Consuming
  · exact .inr (hcons.shortens hr ha hc h)
  · exact .inl fun he ↦ hg (hexposed hcons he)

/-- A part of a guarded grammar is guarded, or runs where less is left. -/
theorem Calls.guarded_or_lt (hr : rules.ScriptFree) (h : Calls rules u w)
    (hu : u.1.ScriptFree) (hc : u.2.WellFormed) (hg : u.1.Guarded) :
    w.1.Guarded ∨ w.2.rest.byteSize < u.2.rest.byteSize := by
  cases h with
  | zipFirst => exact .inl fun he ↦ hg (.zipFirst he)
  | zipSecond ha =>
      cases hu with
      | zip hga _ => exact guarded_or_lt_of_succeeds hr hga hc ha hg .zipSecond
  | zip3First => exact .inl fun he ↦ hg (.zip3First he)
  | zip3Second ha =>
      cases hu with
      | zip3 hga _ _ => exact guarded_or_lt_of_succeeds hr hga hc ha hg .zip3Second
  | @zip3Third a b b' c m m' v w ha hb =>
      cases hu with
      | zip3 hga hgb _ =>
          have hm := ha.reaches hr hga hc
          have hm' := hb.reaches hr hgb hm.wellFormed
          -- Either of the first two stages may be the one that consumes something.
          by_cases hcons : a.Consuming
          · have hlt := hcons.shortens hr hga hc ha
            exact .inr (Nat.lt_of_le_of_lt hm'.byteSize_rest_le hlt)
          · rcases guarded_or_lt_of_succeeds hr hgb hm.wellFormed hb hg (.zip3Third hcons) with
              hb' | hlt
            · exact .inl hb'
            · exact .inr (Nat.lt_of_lt_of_le hlt hm.byteSize_rest_le)
  | orElseFirst => exact .inl fun he ↦ hg (.orElseFirst he)
  | orElseSecond _ => exact .inl fun he ↦ hg (.orElseSecond he)
  | choice hsplit _ =>
      exact .inl fun he ↦ hg (.choice (List.mem_iff_append.mpr ⟨_, _, hsplit⟩) he)
  | map => exact .inl fun he ↦ hg (.map he)
  | tryMap => exact .inl fun he ↦ hg (.tryMap he)
  | filter => exact .inl fun he ↦ hg (.filter he)
  | flatMapFirst => exact .inl fun he ↦ hg (.flatMapFirst he)
  | flatMapNext ha =>
      cases hu with
      | flatMap hga _ => exact guarded_or_lt_of_succeeds hr hga hc ha hg .flatMapNext
  | rule => exact absurd (.rule _) hg

/-! ## Allowances -/

/-- The grammar may run from its cursor with `n` rules unfolded inside each other: fewer than
`n` bytes are left, or as many and the grammar is guarded. -/
structure Allowance (n : Nat) (u : Grammar × Cursor) : Prop where
  scriptFree : u.1.ScriptFree
  wellFormed : u.2.WellFormed
  enough : u.2.rest.byteSize < n ∨ u.1.Guarded ∧ u.2.rest.byteSize ≤ n

/-- What is allowed for a grammar is enough for its parts where they run. -/
theorem Allowance.of_calls {n : Nat} (h : Allowance n u) (hr : rules.ScriptFree)
    (hcall : Calls rules u w) : Allowance n w := by
  have hreach := hcall.reaches hr h.scriptFree h.wellFormed
  have hle := hreach.byteSize_rest_le
  refine ⟨hcall.scriptFree hr h.scriptFree, hreach.wellFormed, ?_⟩
  rcases h.enough with hlt | ⟨hg, hn⟩
  · exact .inl (Nat.lt_of_le_of_lt hle hlt)
  · rcases hcall.guarded_or_lt hr h.scriptFree h.wellFormed hg with hw | hlt
    · exact .inr ⟨hw, Nat.le_trans hle hn⟩
    · exact .inl (Nat.lt_of_lt_of_le hlt hn)

theorem Allowance.of_visits {n : Nat} (h : Allowance n u) (hr : rules.ScriptFree)
    (hvisit : Visits rules u w) : Allowance n w := by
  induction hvisit with
  | refl => exact h
  | tail _ hcall ih => exact ih.of_calls hr hcall

/-- Where a rule may run, one unfolding is allowed, and its grammar may run with one less. -/
theorem Allowance.unfold {n : Nat} {name : String} {c : Cursor}
    (h : Allowance n (.rule name, c)) (hr : rules.ScriptFree) (hguard : rules.Guarded) :
    ∃ m, n = m + 1 ∧ Allowance m (rules name, c) := by
  rcases h.enough with hlt | ⟨hg, _⟩
  · have hlt : c.rest.byteSize < n := hlt
    obtain ⟨m, rfl⟩ : ∃ m, n = m + 1 := ⟨n - 1, by omega⟩
    exact ⟨m, rfl, hr name, h.wellFormed, .inr ⟨hguard name, Nat.le_of_lt_succ hlt⟩⟩
  · exact absurd (.rule name) hg

/-! ## Coming to an end -/

/-- Coming to an end within the allowance is passed on from the rules to the grammars over
them. -/
theorem ends_interpret {n : Nat} (hr : rules.ScriptFree)
    (hrules : ∀ name c, Allowance n (.rule name, c) → (rules.parser n name).Ends c)
    {g : Grammar} {c : Cursor} (h : Allowance n (g, c)) : (g.parser rules n).Ends c := by
  have part : ∀ {g a : Grammar} {c m : Cursor}, Allowance n (g, c) →
      Calls rules (g, c) (a, m) → Allowance n (a, m) := fun h hcall ↦ h.of_calls hr hcall
  induction g generalizing c with
  | anyChar => exact Parser.ends_anyChar.map _
  | integer => exact Parser.ends_integer.map _
  | boolean => exact Parser.ends_boolean.map _
  | literal x => exact (Parser.ends_literal x).map _
  | span accepts => exact (Parser.ends_span accepts).map _
  | always v => exact ⟨_, rfl⟩
  | never => exact ⟨_, rfl⟩
  | script s => exact ⟨_, rfl⟩
  | zip a b iha ihb =>
      exact .map _ (.zip (iha (part h .zipFirst)) fun v m hv ↦
        ihb (part h (.zipSecond ⟨n, hv⟩)))
  | zip3 a b b' iha ihb ihb' =>
      exact .map _ (.zip (iha (part h .zip3First)) fun v m hv ↦
        .zip (ihb (part h (.zip3Second ⟨n, hv⟩))) fun w m' hw ↦
          ihb' (part h (.zip3Third ⟨n, hv⟩ ⟨n, hw⟩)))
  | orElse a b iha ihb =>
      exact .orElse (iha (part h .orElseFirst)) fun e d he ↦
        ihb (part h (.orElseSecond ⟨n, he⟩))
  | choice a bs iha ihbs =>
      rw [parser, interpret, interpretAll_eq_map]
      refine .choice fun before q after hsplit hbefore ↦ ?_
      rw [← List.map_cons] at hsplit
      obtain ⟨before, after, hbs, rfl, hafter⟩ := List.map_eq_append_iff.mp hsplit
      obtain ⟨b, after, rfl, rfl, rfl⟩ := List.map_eq_cons_iff.mp hafter
      have hcall : Calls rules (.choice a bs, c) (b, c) := by
        refine .choice hbs fun q hq ↦ ?_
        obtain ⟨e, d, he⟩ := hbefore _ (List.mem_map_of_mem hq)
        exact ⟨e, d, n, he⟩
      rcases List.mem_cons.mp (List.mem_iff_append.mpr ⟨_, _, hbs⟩) with rfl | hb
      · exact iha (part h hcall)
      · exact ihbs b hb (part h hcall)
  | map a f iha => exact (iha (part h .map)).map f
  | tryMap a f iha => exact (iha (part h .tryMap)).tryMap f
  | filter a keep reason iha => exact (iha (part h .filter)).filter keep reason
  | flatMap a k iha ihk =>
      exact .flatMap (iha (part h .flatMapFirst)) fun v m hv ↦
        ihk v (part h (.flatMapNext ⟨n, hv⟩))
  | rule name => exact hrules name c h

theorem ends_rule (hr : rules.ScriptFree) (hguard : rules.Guarded) (n : Nat) (name : String)
    (c : Cursor) (h : Allowance n (.rule name, c)) : (rules.parser n name).Ends c := by
  induction n generalizing name c with
  | zero =>
      obtain ⟨m, hm, _⟩ := h.unfold hr hguard
      omega
  | succ n ih =>
      obtain ⟨m, hm, h⟩ := h.unfold hr hguard
      obtain rfl : n = m := by omega
      exact ends_interpret hr ih h

/-! ## Unfoldings inside each other -/

/-- While the first grammar runs from its cursor, the rules of the list are unfolded inside
each other, the outermost one first, each at its cursor. -/
inductive Unfolds (rules : Rules) : Grammar × Cursor → List (String × Cursor) → Prop
  | nil {u : Grammar × Cursor} : Unfolds rules u []
  | cons {u : Grammar × Cursor} {name : String} {c : Cursor} {inner : List (String × Cursor)} :
      Visits rules u (.rule name, c) → Unfolds rules (rules name, c) inner →
        Unfolds rules u ((name, c) :: inner)

theorem Unfolds.length_le {n : Nat} {stack : List (String × Cursor)} (hr : rules.ScriptFree)
    (hguard : rules.Guarded) (h : Unfolds rules u stack) (hu : Allowance n u) :
    stack.length ≤ n := by
  induction h generalizing n with
  | nil => exact Nat.zero_le n
  | cons hvisit _ ih =>
      obtain ⟨m, rfl, hm⟩ := (hu.of_visits hr hvisit).unfold hr hguard
      exact Nat.succ_le_succ (ih hm)

/-- Over guarded rules, every grammar comes to an end from every cursor, as long as there are
no scripts.  Where `n` bytes are left it does so to the depth `n + 1`, and at no time are more
rules than that unfolded inside each other. -/
theorem guarded_rules_end (hr : rules.ScriptFree) (hguard : rules.Guarded) {g : Grammar}
    (hg : g.ScriptFree) {c : Cursor} (hc : c.WellFormed) :
    (∃ r, (g.parser rules (c.rest.byteSize + 1)).parse c = some r) ∧
      ∀ stack, Unfolds rules (g, c) stack → stack.length ≤ c.rest.byteSize + 1 := by
  have h : Allowance (c.rest.byteSize + 1) (g, c) := ⟨hg, hc, .inl (Nat.lt_succ_self _)⟩
  exact ⟨ends_interpret hr (ends_rule hr hguard _) h,
    fun stack hstack ↦ hstack.length_le hr hguard h⟩

/-- Two parentheses and nothing behind them: a rule is unfolded before each of them and at
the end, so two bytes need all three unfoldings. -/
theorem parentheses_three_unfoldings :
    let value : Grammar := .choice (.literal ['é'])
      [.zip3 (.literal ['(']) (.rule "value") (.literal [')']),
        .flatMap (.literal ['<']) fun _ ↦ .zip (.rule "value") (.rule "value")]
    let rules : Rules := fun _ ↦ value
    let g : Grammar := .orElse (.rule "value") .anyChar
    let text : Text := ['(', '(']
    rules.ScriptFree ∧ rules.Guarded ∧ g.ScriptFree ∧ (Cursor.start text).WellFormed ∧
      ¬ g.Guarded ∧ (g.parser rules 2).parse (.start text) = none ∧
      Unfolds rules (g, .start text)
        [("value", ⟨text, 0⟩), ("value", ⟨text, 1⟩), ("value", ⟨text, 2⟩)] ∧
      (∃ r, (g.parser rules 3).parse (.start text) = some r) ∧
        ∀ stack, Unfolds rules (g, .start text) stack → stack.length ≤ 3 := by
  intro value rules g text
  have hr : rules.ScriptFree := by
    refine fun _ ↦ .choice (.literal _) fun b hb ↦ ?_
    rcases List.mem_pair.mp hb with rfl | rfl
    · exact .zip3 (.literal _) (.rule _) (.literal _)
    · exact .flatMap (.literal _) fun _ ↦ .zip (.rule _) (.rule _)
  have hliteral : ∀ x, ¬ (Grammar.literal x).Exposed := fun x h ↦ by cases h
  have hguard : rules.Guarded := by
    intro name h
    cases h with
    | choice hb h =>
        rcases List.mem_cons.mp hb with rfl | hb
        · exact hliteral _ h
        · rcases List.mem_pair.mp hb with rfl | rfl
          · cases h with
            | zip3First h => exact hliteral _ h
            | zip3Second hcons _ => exact hcons (.literal (by decide))
            | zip3Third hcons _ _ => exact hcons (.literal (by decide))
          · cases h with
            | flatMapFirst h => exact hliteral _ h
            | flatMapNext hcons _ => exact hcons (.literal (by decide))
  have hg : g.ScriptFree := .orElse (.rule _) .anyChar
  have hc : (Cursor.start text).WellFormed := Cursor.wellFormed_start (by decide)
  have hinner : ∀ {m n : Cursor}, (∃ e d, (Grammar.literal ['é']).Fails rules m e d) →
      (Grammar.literal ['(']).Succeeds rules m .unit n →
        Visits rules (value, m) (.rule "value", n) := by
    intro m n hfails hopens
    have hcall : Calls rules (value, m)
        (.zip3 (.literal ['(']) (.rule "value") (.literal [')']), m) :=
      .choice (List.singleton_append (x := Grammar.literal ['é'])).symm
        (List.forall_mem_singleton.mpr hfails)
    exact .tail (.single hcall) (.zip3Second hopens)
  have hfirst : Visits rules (value, ⟨text, 0⟩) (.rule "value", ⟨text, 1⟩) :=
    hinner ⟨_, _, 0, [], rfl⟩ ⟨0, [], rfl⟩
  have hsecond : Visits rules (value, ⟨text, 1⟩) (.rule "value", ⟨text, 2⟩) :=
    hinner ⟨_, _, 0, [], rfl⟩ ⟨0, [], rfl⟩
  have hstack : Unfolds rules (g, .start text)
      [("value", ⟨text, 0⟩), ("value", ⟨text, 1⟩), ("value", ⟨text, 2⟩)] :=
    .cons (.single .orElseFirst) (.cons hfirst (.cons hsecond .nil))
  have hsize : (Cursor.start text).rest.byteSize + 1 = 3 := by decide
  have hend := guarded_rules_end hr hguard hg hc
  rw [hsize] at hend
  exact ⟨hr, hguard, hg, hc, fun h ↦ h (.orElseFirst (.rule _)), rfl, hstack, hend⟩

end Grammar

end Backtrack
