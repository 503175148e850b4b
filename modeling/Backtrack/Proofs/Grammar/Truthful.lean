import Backtrack.Proofs.Failure.Shape
import Backtrack.Proofs.Grammar.Calls
import Backtrack.Proofs.Grammar.ScriptFree
import Backtrack.Proofs.Numeral
import Backtrack.Parser.Run

/-!
# Failures can be replayed

What a failure says about the input stays true while it is passed on.  A missing literal or
number at any depth of it is found again by running that literal, or the number parser, on
the recorded rest; a recorded refusal is that of a test or conversion which the grammar did
run, on a value that it refused there (`Grammar.Fails.truthful`).  Between the place where
it arises and the failure of the whole grammar, a failure is only ever passed on as it is or
put among the attempts of a choice.
-/

namespace Backtrack

namespace Parser

variable {α β : Type} {P : Failure → Prop} {p : Parser α} {c : Cursor}

/-! ## Replaying a failure -/

theorem run_literal_of_not_prefix {x r : Text} (h : x.isPrefixOf r = false) :
    (literal x).run r = some ⟨.error (.missingLiteral x r), .start r, []⟩ := by
  rw [run_eq, parse_literal, Cursor.rest_start, h]
  rfl

theorem run_integer_of_error {r : Text} {fault : Numeral.Fault}
    (h : Numeral.read 10 (r.takeWhile Text.isNumeric) = .error fault) :
    integer.run r =
      some ⟨.error (.notNumber (r.takeWhile Text.isNumeric) r), .start r, []⟩ := by
  rw [run_eq, parse_integer, Cursor.rest_start, h]

/-! ## Where failures come from -/

/-- From `c`, the failures of the parser have `P` at all their nodes. -/
def FailuresSatisfy (P : Failure → Prop) (p : Parser α) (c : Cursor) : Prop :=
  ∀ ⦃e d⦄, p.Fails c e d → ∀ n ∈ e.nodes, P n

theorem FailuresSatisfy.map (f : α → β) (hp : p.FailuresSatisfy P c) :
    (p.map f).FailuresSatisfy P c := fun _ _ h ↦ hp (fails_map.mp h)

theorem FailuresSatisfy.tryMap {f : α → Except Text β} (hp : p.FailuresSatisfy P c)
    (hf : ∀ a d reason, p.Succeeds c a d → f a = .error reason → P (.rejected reason d.rest)) :
    (p.tryMap f).FailuresSatisfy P c := by
  intro e d h
  rcases fails_tryMap.mp h with h | ⟨a, reason, ha, hfa, rfl⟩
  · exact hp h
  · exact List.forall_mem_singleton.mpr (hf a d reason ha hfa)

theorem FailuresSatisfy.filter {keep : α → Bool} {reason : Text} (hp : p.FailuresSatisfy P c)
    (hk : ∀ a d, p.Succeeds c a d → keep a = false → P (.rejected reason c.rest)) :
    (p.filter keep reason).FailuresSatisfy P c := by
  intro e d h
  rcases fails_filter.mp h with h | ⟨⟨a, m, ha, hka⟩, rfl, _⟩
  · exact hp h
  · exact List.forall_mem_singleton.mpr (hk a m ha hka)

theorem FailuresSatisfy.zip {q : Parser β} (hp : p.FailuresSatisfy P c)
    (hq : ∀ a m, p.Succeeds c a m → q.FailuresSatisfy P m) :
    (p.zip q).FailuresSatisfy P c := by
  intro e d h
  rcases fails_zip.mp h with h | ⟨⟨a, m, stop, ha, h⟩, _⟩
  · exact hp h
  · exact hq a m ha h

theorem FailuresSatisfy.flatMap {k : α → Parser β} (hp : p.FailuresSatisfy P c)
    (hk : ∀ a m, p.Succeeds c a m → (k a).FailuresSatisfy P m) :
    (p.flatMap k).FailuresSatisfy P c := by
  intro e d h
  rcases fails_flatMap.mp h with h | ⟨⟨a, m, stop, ha, h⟩, _⟩
  · exact hp h
  · exact hk a m ha h

section Choices

variable (hP : ∀ r as, P (.noAlternative r as))

include hP

theorem FailuresSatisfy.orElse {q : Parser α} (hp : p.FailuresSatisfy P c)
    (hq : ∀ e d, p.Fails c e d → q.FailuresSatisfy P c) :
    (p.orElse q).FailuresSatisfy P c := by
  intro e d h n hn
  obtain ⟨⟨e₁, e₂, ⟨d₁, h₁⟩, ⟨d₂, h₂⟩, rfl⟩, _⟩ := fails_orElse.mp h
  rcases Failure.mem_nodes_exhausted hn with ⟨as, rfl⟩ | ⟨e, he, hne⟩
  · exact hP _ as
  · rcases List.mem_pair.mp he with rfl | rfl
    · exact hp h₁ n hne
    · exact hq _ d₁ h₁ h₂ n hne

theorem FailuresSatisfy.choice {ps : List (Parser α)}
    (hps : (∀ q ∈ p :: ps, ∃ e d, q.Fails c e d) → ∀ q ∈ p :: ps, q.FailuresSatisfy P c) :
    (Parser.choice p ps).FailuresSatisfy P c := by
  intro e d h n hn
  obtain ⟨⟨es, hes, rfl⟩, _⟩ := fails_choice.mp h
  rcases Failure.mem_nodes_exhausted hn with ⟨as, rfl⟩ | ⟨e, he, hne⟩
  · exact hP _ as
  · obtain ⟨q, hq, d, hqe⟩ := hes.exists_of_mem he
    exact hps (fun q hq ↦ hes.fails_of_mem hq) q hq hqe n hne

end Choices

end Parser

namespace Grammar

variable {rules : Rules}

/-- The test or conversion that the grammar is, run from its cursor, refuses a value with
the given reason at the given rest. -/
inductive Refuses (rules : Rules) : Grammar × Cursor → Text → Text → Prop
  | filter {a : Grammar} {keep : Value → Bool} {reason : Text} {c d : Cursor} {v : Value} :
      a.Succeeds rules c v d → keep v = false →
        Refuses rules (.filter a keep reason, c) reason c.rest
  | tryMap {a : Grammar} {f : Value → Except Text Value} {reason : Text} {c d : Cursor}
      {v : Value} :
      a.Succeeds rules c v d → f v = .error reason →
        Refuses rules (.tryMap a f, c) reason d.rest

/-- What a node of a failure says is so, when the failure is that of the given grammar from
the given cursor. -/
def Truthful (rules : Rules) (s : Grammar × Cursor) : Failure → Prop
  | .missingLiteral x r =>
    (Parser.literal x).run r = some ⟨.error (.missingLiteral x r), .start r, []⟩ ∧ ¬ x <+: r
  | .notNumber digits r =>
    Parser.integer.run r = some ⟨.error (.notNumber digits r), .start r, []⟩ ∧
      digits = r.takeWhile Text.isNumeric ∧ ∀ n : Int64, ¬ Numeral.Denotes digits n.toInt
  | .rejected reason r => ∃ t, Visits rules s t ∧ Refuses rules t reason r
  | .never | .endOfInput | .noAlternative _ _ => True

/-- What is so of a part is so of the whole. -/
theorem Truthful.of_calls {s t : Grammar × Cursor} {n : Failure} (h : Truthful rules t n)
    (hc : Calls rules s t) : Truthful rules s n := by
  cases n with
  | rejected reason r =>
      obtain ⟨u, hu, hr⟩ := h
      exact ⟨u, .head hc hu, hr⟩
  | _ => exact h

theorem truthful_missingLiteral (s : Grammar × Cursor) {x r : Text}
    (h : x.isPrefixOf r = false) : Truthful rules s (.missingLiteral x r) := by
  refine ⟨Parser.run_literal_of_not_prefix h, fun hx ↦ ?_⟩
  rw [List.isPrefixOf_iff_prefix.mpr hx] at h
  cases h

theorem truthful_notNumber (s : Grammar × Cursor) {r : Text} {fault : Numeral.Fault}
    (h : Numeral.read 10 (r.takeWhile Text.isNumeric) = .error fault) :
    Truthful rules s (.notNumber (r.takeWhile Text.isNumeric) r) := by
  refine ⟨Parser.run_integer_of_error h, rfl, fun n hn ↦ ?_⟩
  rw [Numeral.read_ten_eq_ok.mpr hn] at h
  cases h

theorem failuresSatisfy_literal (s : Grammar × Cursor) (x : Text) (c : Cursor) :
    (Parser.literal x).FailuresSatisfy (Truthful rules s) c := by
  intro e d h
  obtain ⟨hx, rfl, _⟩ := Parser.fails_literal.mp h
  exact List.forall_mem_singleton.mpr (truthful_missingLiteral s hx)

theorem failuresSatisfy_boolean (s : Grammar × Cursor) (c : Cursor) :
    Parser.boolean.FailuresSatisfy (Truthful rules s) c := by
  have hor : ∀ x y, ((Parser.literal x).orElse (.literal y)).FailuresSatisfy
      (Truthful rules s) c := fun x y ↦
    .orElse (fun _ _ ↦ trivial) (failuresSatisfy_literal s x c)
      fun _ _ _ ↦ failuresSatisfy_literal s y c
  exact .orElse (fun _ _ ↦ trivial) ((hor _ _).map _) fun _ _ _ ↦ (hor _ _).map _

/-- Being truthful is passed on from the rules to the grammars over them. -/
theorem truthful_interpret {depth : Nat}
    (hrules : ∀ name c,
      (rules.parser depth name).FailuresSatisfy (Truthful rules (rules name, c)) c)
    {g : Grammar} (hg : g.ScriptFree) (c : Cursor) :
    (g.parser rules depth).FailuresSatisfy (Truthful rules (g, c)) c := by
  -- What is so of a part where it runs is so of the whole.
  have lift : ∀ {g a : Grammar} {c m : Cursor},
      (a.parser rules depth).FailuresSatisfy (Truthful rules (a, m)) m →
        Calls rules (g, c) (a, m) →
          (a.parser rules depth).FailuresSatisfy (Truthful rules (g, c)) m :=
    fun ha hga _ _ h n hn ↦ (ha h n hn).of_calls hga
  induction hg generalizing c with
  | anyChar =>
      refine .map _ fun e d h ↦ ?_
      obtain ⟨_, rfl, _⟩ := Parser.fails_anyChar.mp h
      exact List.forall_mem_singleton.mpr trivial
  | integer =>
      refine .map _ fun e d h ↦ ?_
      obtain ⟨⟨fault, hf⟩, rfl, _⟩ := Parser.fails_integer.mp h
      exact List.forall_mem_singleton.mpr (truthful_notNumber _ hf)
  | boolean => exact (failuresSatisfy_boolean _ c).map _
  | literal x => exact (failuresSatisfy_literal _ x c).map _
  | span accepts => exact .map _ fun _ _ h ↦ absurd h Parser.fails_span
  | always v => exact fun _ _ h ↦ absurd h Parser.fails_always
  | never =>
      intro e d h
      obtain ⟨rfl, _⟩ := Parser.fails_never.mp h
      exact List.forall_mem_singleton.mpr trivial
  | zip _ _ ha hb =>
      exact .map _ (.zip (lift (ha c) .zipFirst)
        fun v m hv ↦ lift (hb m) (.zipSecond ⟨depth, hv⟩))
  | zip3 _ _ _ ha hb hb' =>
      exact .map _ (.zip (lift (ha c) .zip3First) fun v m hv ↦
        .zip (lift (hb m) (.zip3Second ⟨depth, hv⟩)) fun w m' hw ↦
          lift (hb' m') (.zip3Third ⟨depth, hv⟩ ⟨depth, hw⟩))
  | orElse _ _ ha hb =>
      exact .orElse (fun _ _ ↦ trivial) (lift (ha c) .orElseFirst)
        fun e d he ↦ lift (hb c) (.orElseSecond ⟨depth, he⟩)
  | @choice a bs _ _ ha hbs =>
      rw [parser, interpret, interpretAll_eq_map]
      refine .choice (fun _ _ ↦ trivial) fun hfail q hq ↦ ?_
      rw [← List.map_cons] at hfail hq
      obtain ⟨b, hb, rfl⟩ := List.mem_map.mp hq
      obtain ⟨before, after, hsplit⟩ := List.append_of_mem hb
      refine lift ?_ (.choice hsplit fun q hq ↦ ?_)
      · rcases List.mem_cons.mp hb with rfl | hb
        · exact ha c
        · exact hbs b hb c
      · have hmem : q ∈ a :: bs := hsplit ▸ List.mem_append_left _ hq
        obtain ⟨e, d, he⟩ := hfail _ (List.mem_map_of_mem hmem)
        exact ⟨e, d, depth, he⟩
  | map f _ ha => exact (lift (ha c) .map).map f
  | tryMap f _ ha =>
      exact (lift (ha c) .tryMap).tryMap fun v d reason hv hf ↦
        ⟨_, .refl, .tryMap ⟨depth, hv⟩ hf⟩
  | filter keep reason _ ha =>
      exact (lift (ha c) .filter).filter fun v d hv hk ↦ ⟨_, .refl, .filter ⟨depth, hv⟩ hk⟩
  | flatMap _ _ ha hk =>
      exact (lift (ha c) .flatMapFirst).flatMap fun v m hv ↦
        lift (hk v m) (.flatMapNext ⟨depth, hv⟩)
  | rule name => exact fun _ _ h n hn ↦ (hrules name c h n hn).of_calls .rule

theorem truthful_rule (hr : rules.ScriptFree) (depth : Nat) (name : String) (c : Cursor) :
    (rules.parser depth name).FailuresSatisfy (Truthful rules (rules name, c)) c := by
  induction depth generalizing name c with
  | zero => exact fun _ _ h ↦ absurd h Parser.fails_endless
  | succ depth ih => exact truthful_interpret ih (hr name) c

/-- Every node of a failure of a grammar without scripts is so: a missing literal and a
missing number are found again, exactly as recorded, by running the literal or the number
parser on the recorded rest, and a refusal is that of a test or a conversion in the grammar,
its rules and what its values choose, of a value that it refuses where it runs. -/
theorem Fails.truthful {g : Grammar} {c d : Cursor} {e : Failure} (hr : rules.ScriptFree)
    (hg : g.ScriptFree) (h : g.Fails rules c e d) : ∀ n ∈ e.nodes, Truthful rules (g, c) n := by
  obtain ⟨depth, h⟩ := h
  exact truthful_interpret (truthful_rule hr depth) hg c h

/-- After a parenthesis, a numeral that is none of the ten digits is taken for a number, for
a letter, and for a character that a rule's test refuses. -/
theorem numeral_truthful :
    let rules : Rules := fun _ ↦ .filter .anyChar (fun _ ↦ false) ['n', 'o']
    let g : Grammar :=
      .zip (.literal ['(']) (.choice .integer [.literal ['é'], .rule "refused"])
    let c : Cursor := .start ['(', '٣', ')']
    let e : Failure := .noAlternative ['٣', ')']
      [.notNumber ['٣'] ['٣', ')'], .missingLiteral ['é'] ['٣', ')'],
        .rejected ['n', 'o'] ['٣', ')']]
    rules.ScriptFree ∧ g.ScriptFree ∧ g.Fails rules c e c ∧
      ∀ n ∈ e.nodes, Truthful rules (g, c) n := by
  intro rules g c e
  have hr : rules.ScriptFree := fun _ ↦ .filter _ _ .anyChar
  have hg : g.ScriptFree := by
    refine .zip (.literal _) (.choice .integer fun b hb ↦ ?_)
    rcases List.mem_pair.mp hb with rfl | rfl
    · exact .literal _
    · exact .rule _
  have h : g.Fails rules c e c := ⟨1, _, rfl⟩
  exact ⟨hr, hg, h, h.truthful hr hg⟩

end Grammar

end Backtrack
