import Backtrack.Proofs.Failure.Likely
import Backtrack.Proofs.Grammar.FailureShape

/-!
# Left factoring

Alternatives that all begin with the same part can have it taken out: a choice of pairs
with one first part does as a pair of that part and a choice.  The first form runs the
first part again for every alternative, and its choice stands before the first part and
not after it, so the failures of the two are different trees.  They have the same likely
cause, because it depends neither on where a choice stood nor on how often an attempt was
repeated.
-/

namespace Backtrack

namespace Parser

variable {α β γ : Type} {p : Parser α} {f : α → β → γ} {c m stop : Cursor} {a : α}
  {e₁ : Failure}

/-- Runs `p` and then `q`, and puts their values together. -/
def zipWith (p : Parser α) (f : α → β → γ) (q : Parser β) : Parser γ :=
  (p.zip q).map fun v ↦ f v.1 v.2

/-! ## Pairs with one first part

Once the first part has succeeded, the pair does as its second part; when the first part
fails, so does the pair. -/

theorem succeeds_zipWith (hp : p.Succeeds c a m) {q : Parser β} {v : γ} {d : Cursor} :
    (p.zipWith f q).Succeeds c v d ↔ ∃ b, q.Succeeds m b d ∧ f a b = v := by
  rw [zipWith, succeeds_map]
  constructor
  · rintro ⟨⟨a', b⟩, h, rfl⟩
    obtain ⟨m', ha, hb⟩ := succeeds_zip.mp h
    obtain ⟨rfl, rfl⟩ := hp.unique ha
    exact ⟨b, hb, rfl⟩
  · rintro ⟨b, hb, rfl⟩
    exact ⟨(a, b), succeeds_zip.mpr ⟨m, hp, hb⟩, rfl⟩

theorem fails_zipWith (hp : p.Succeeds c a m) {q : Parser β} {e : Failure} {d : Cursor} :
    (p.zipWith f q).Fails c e d ↔ (∃ s, q.Fails m e s) ∧ d = c := by
  rw [zipWith, fails_map, fails_zip]
  constructor
  · rintro (h | ⟨⟨a', m', s, ha, hq⟩, rfl⟩)
    · exact absurd h hp.not_fails
    · obtain ⟨rfl, rfl⟩ := hp.unique ha
      exact ⟨⟨s, hq⟩, rfl⟩
  · rintro ⟨⟨s, hq⟩, rfl⟩
    exact .inr ⟨⟨a, m, s, hp, hq⟩, rfl⟩

theorem fails_zipWith_of_fails (hp : p.Fails c e₁ stop) {q : Parser β} {e : Failure} {d : Cursor} :
    (p.zipWith f q).Fails c e d ↔ e = e₁ ∧ d = stop := by
  rw [zipWith, fails_map, fails_zip]
  constructor
  · rintro (h | ⟨⟨a, m, s, ha, _⟩, _⟩)
    · exact h.unique hp
    · exact absurd hp ha.not_fails
  · rintro ⟨rfl, rfl⟩
    exact .inl hp

/-- A pair that fails has had an outcome of its first part. -/
theorem first_of_fails_zipWith {q : Parser β} {e : Failure} {d : Cursor}
    (h : (p.zipWith f q).Fails c e d) :
    (∃ e₁ stop, p.Fails c e₁ stop) ∨ ∃ a m, p.Succeeds c a m := by
  rcases fails_zip.mp (fails_map.mp h) with h | ⟨⟨a, m, _, ha, _⟩, _⟩
  · exact .inl ⟨e, d, h⟩
  · exact .inr ⟨a, m, ha⟩

/-! ## Alternatives with one first part -/

theorem firstSucceeds_zipWith (hp : p.Succeeds c a m) {qs : List (Parser β)} {v : γ}
    {d : Cursor} :
    FirstSucceeds c (qs.map (p.zipWith f)) v d ↔ ∃ b, FirstSucceeds m qs b d ∧ f a b = v := by
  induction qs with
  | nil => simp [not_firstSucceeds_nil]
  | cons q qs ih =>
      rw [List.map_cons, firstSucceeds_cons, ih, succeeds_zipWith hp]
      simp only [firstSucceeds_cons, fails_zipWith hp]
      constructor
      · rintro (⟨b, hb, rfl⟩ | ⟨⟨e, _, ⟨s, hq⟩, _⟩, b, hb, rfl⟩)
        · exact ⟨b, .inl hb, rfl⟩
        · exact ⟨b, .inr ⟨⟨e, s, hq⟩, hb⟩, rfl⟩
      · rintro ⟨b, hb | ⟨⟨e, s, hq⟩, hb⟩, rfl⟩
        · exact .inl ⟨b, hb, rfl⟩
        · exact .inr ⟨⟨e, c, ⟨s, hq⟩, rfl⟩, b, hb, rfl⟩

theorem allFail_zipWith (hp : p.Succeeds c a m) {qs : List (Parser β)} {es : List Failure} :
    AllFail c (qs.map (p.zipWith f)) es ↔ AllFail m qs es := by
  simp [AllFail, List.forall₂_map_left_iff, fails_zipWith hp]

theorem allFail_zipWith_of_fails (hp : p.Fails c e₁ stop) {qs : List (Parser β)}
    {es : List Failure} :
    AllFail c (qs.map (p.zipWith f)) es ↔ es = List.replicate qs.length e₁ := by
  induction qs generalizing es with
  | nil => simp
  | cons q qs ih =>
      rw [List.map_cons, AllFail, List.forall₂_cons_left_iff, List.length_cons,
        List.replicate_succ]
      constructor
      · rintro ⟨e, es, ⟨_, he⟩, hes, rfl⟩
        rw [((fails_zipWith_of_fails hp).mp he).1, ih.mp hes]
      · rintro rfl
        exact ⟨e₁, _, ⟨stop, (fails_zipWith_of_fails hp).mpr ⟨rfl, rfl⟩⟩, ih.mpr rfl, rfl⟩

/-! ## The two forms -/

variable {q : Parser β} {qs : List (Parser β)}

theorem succeeds_spread {v : γ} {d : Cursor} :
    (choice (p.zipWith f q) (qs.map (p.zipWith f))).Succeeds c v d ↔
      (p.zipWith f (choice q qs)).Succeeds c v d := by
  rw [succeeds_choice, ← List.map_cons]
  constructor
  · intro h
    obtain ⟨_, hr, h'⟩ := h.exists_mem
    obtain ⟨r, _, rfl⟩ := List.mem_map.mp hr
    obtain ⟨⟨a, b'⟩, h', _⟩ := succeeds_map.mp h'
    obtain ⟨m, ha, _⟩ := succeeds_zip.mp h'
    obtain ⟨b, hb, rfl⟩ := (firstSucceeds_zipWith ha).mp h
    exact (succeeds_zipWith ha).mpr ⟨b, succeeds_choice.mpr hb, rfl⟩
  · intro h
    obtain ⟨⟨a, b⟩, h', rfl⟩ := succeeds_map.mp h
    obtain ⟨m, ha, hb⟩ := succeeds_zip.mp h'
    exact (firstSucceeds_zipWith ha).mpr ⟨b, succeeds_choice.mp hb, rfl⟩

/-- The choice of pairs fails where it began, with the failure of the first part once for
every alternative, or with the failures of the second parts. -/
theorem fails_spread {e : Failure} {d : Cursor} :
    (choice (p.zipWith f q) (qs.map (p.zipWith f))).Fails c e d ↔
      ((∃ e₁ stop, p.Fails c e₁ stop ∧
          e = .exhausted c.rest (List.replicate (q :: qs).length e₁)) ∨
        ∃ a m es, p.Succeeds c a m ∧ AllFail m (q :: qs) es ∧ e = .exhausted c.rest es) ∧
        d = c := by
  rw [fails_choice, ← List.map_cons]
  refine and_congr_left fun _ ↦ ⟨?_, ?_⟩
  · rintro ⟨es, hes, rfl⟩
    obtain ⟨e, es, ⟨s, he⟩, _, rfl⟩ := List.forall₂_cons_left_iff.mp hes
    rcases first_of_fails_zipWith he with ⟨e₁, stop, hp⟩ | ⟨a, m, hp⟩
    · exact .inl ⟨e₁, stop, hp, by rw [(allFail_zipWith_of_fails hp).mp hes]⟩
    · exact .inr ⟨a, m, e :: es, hp, (allFail_zipWith hp).mp hes, rfl⟩
  · rintro (⟨e₁, stop, hp, rfl⟩ | ⟨a, m, es, hp, hes, rfl⟩)
    · exact ⟨_, (allFail_zipWith_of_fails hp).mpr rfl, rfl⟩
    · exact ⟨es, (allFail_zipWith hp).mpr hes, rfl⟩

/-- The pair fails as its first part, or where it began with the failures of the second
parts, at the place after the first part. -/
theorem fails_factored {e : Failure} {d : Cursor} :
    (p.zipWith f (choice q qs)).Fails c e d ↔ p.Fails c e d ∨
      (∃ a m es, p.Succeeds c a m ∧ AllFail m (q :: qs) es ∧ e = .exhausted m.rest es) ∧
        d = c := by
  simp only [zipWith, fails_map, fails_zip, fails_choice]
  refine or_congr_right (and_congr_left fun _ ↦ ⟨?_, ?_⟩)
  · rintro ⟨a, m, _, ha, ⟨es, hes, rfl⟩, rfl⟩
    exact ⟨a, _, es, ha, hes, rfl⟩
  · rintro ⟨a, m, es, ha, hes, rfl⟩
    exact ⟨a, m, m, ha, ⟨es, hes, rfl⟩, rfl⟩

/-- One form fails exactly when the other does. -/
theorem exists_fails_spread :
    (∃ e d, (choice (p.zipWith f q) (qs.map (p.zipWith f))).Fails c e d) ↔
      ∃ e d, (p.zipWith f (choice q qs)).Fails c e d := by
  simp only [fails_spread, fails_factored]
  constructor
  · rintro ⟨e, _, ⟨e₁, stop, hp, rfl⟩ | ⟨a, m, es, hp, hes, rfl⟩, rfl⟩
    · exact ⟨e₁, stop, .inl hp⟩
    · exact ⟨_, _, .inr ⟨⟨a, m, es, hp, hes, rfl⟩, rfl⟩⟩
  · rintro ⟨e, d, hp | ⟨⟨a, m, es, hp, hes, rfl⟩, _⟩⟩
    · exact ⟨_, _, .inl ⟨e, d, hp, rfl⟩, rfl⟩
    · exact ⟨_, _, .inr ⟨a, m, es, hp, hes, rfl⟩, rfl⟩

/-- When the first part has succeeded, the two forms fail at its two ends. -/
theorem rest_spread {e e' : Failure} {d d' : Cursor} (ha : p.Succeeds c a m)
    (h : (choice (p.zipWith f q) (qs.map (p.zipWith f))).Fails c e d)
    (h' : (p.zipWith f (choice q qs)).Fails c e' d') :
    e.rest? = some c.rest ∧ e'.rest? = some m.rest := by
  constructor
  · obtain ⟨⟨_, _, _, rfl⟩ | ⟨_, _, _, _, _, rfl⟩, _⟩ := fails_spread.mp h
    · rfl
    · rfl
  · rcases fails_factored.mp h' with hf | ⟨⟨a', m', es, ha', _, rfl⟩, _⟩
    · exact absurd hf ha.not_fails
    · obtain ⟨_, rfl⟩ := ha.unique ha'
      rfl

/-- The failures of the two forms have one likely cause. -/
theorem likely_spread {e e' : Failure} {d d' : Cursor} (hp : p.Descending) (hq : q.Descending)
    (hqs : ∀ r ∈ qs, r.Descending) (hc : c.WellFormed)
    (h : (choice (p.zipWith f q) (qs.map (p.zipWith f))).Fails c e d)
    (h' : (p.zipWith f (choice q qs)).Fails c e' d') : e.likely = e'.likely := by
  obtain ⟨⟨e₁, stop, hf, rfl⟩ | ⟨a, m, es, ha, hes, rfl⟩, _⟩ := fails_spread.mp h
  · -- The first part failed: its failure is repeated.
    rcases fails_factored.mp h' with hf' | ⟨⟨a, m, es, ha, _⟩, _⟩
    · obtain ⟨rfl, _⟩ := hf.unique hf'
      have he := hp.descends hc hf
      exact Failure.likely_exhausted_replicate c.rest qs.length fun r ↦ he.ne_noAlternative_nil
    · exact absurd hf ha.not_fails
  · -- The second parts failed, from one cursor: only the choice's place differs.
    rcases fails_factored.mp h' with hf | ⟨⟨a', m', es', ha', hes', rfl⟩, _⟩
    · exact absurd hf ha.not_fails
    · obtain ⟨rfl, rfl⟩ := ha.unique ha'
      obtain rfl := hes.unique hes'
      have hno : ∀ r, Failure.noAlternative r [] ∉ es := by
        intro r hr
        obtain ⟨s, hs, stop, hf⟩ := hes.exists_of_mem hr
        have hm := (hp.succeeds hc ha).wellFormed
        rcases List.mem_cons.mp hs with rfl | hs
        · exact (hq.descends hm hf).ne_noAlternative_nil rfl
        · exact ((hqs s hs).descends hm hf).ne_noAlternative_nil rfl
      exact Failure.likely_exhausted_congr c.rest m.rest hes.ne_nil hno

end Parser

namespace Grammar

/-- A choice of pairs that all begin with `a`. -/
def spread (a b : Grammar) (bs : List Grammar) : Grammar :=
  .choice (.zip a b) (bs.map (.zip a))

/-- The same with `a` taken out: a pair of `a` and a choice. -/
def factored (a b : Grammar) (bs : List Grammar) : Grammar :=
  .zip a (.choice b bs)

variable {rules : Rules} {a b : Grammar} {bs : List Grammar} {c : Cursor}

theorem parser_spread (depth : Nat) :
    (spread a b bs).parser rules depth =
      .choice ((a.parser rules depth).zipWith (fun v w ↦ .tuple [v, w]) (b.parser rules depth))
        ((bs.map fun b ↦ b.parser rules depth).map
          ((a.parser rules depth).zipWith fun v w ↦ .tuple [v, w])) := by
  rw [spread, parser, interpret, interpretAll_eq_map, List.map_map, List.map_map]
  rfl

theorem parser_factored (depth : Nat) :
    (factored a b bs).parser rules depth =
      (a.parser rules depth).zipWith (fun v w ↦ .tuple [v, w])
        (.choice (b.parser rules depth) (bs.map fun b ↦ b.parser rules depth)) := by
  rw [factored, parser, interpret, interpret, interpretAll_eq_map]
  rfl

theorem succeeds_factored {v : Value} {d : Cursor} :
    (spread a b bs).Succeeds rules c v d ↔ (factored a b bs).Succeeds rules c v d := by
  refine exists_congr fun depth ↦ ?_
  rw [parser_spread, parser_factored]
  exact Parser.succeeds_spread

theorem exists_fails_factored :
    (∃ e d, (spread a b bs).Fails rules c e d) ↔ ∃ e d, (factored a b bs).Fails rules c e d := by
  constructor
  · rintro ⟨e, d, depth, h⟩
    rw [parser_spread] at h
    obtain ⟨e', d', h'⟩ := Parser.exists_fails_spread.mp ⟨e, d, h⟩
    exact ⟨e', d', depth, by rwa [parser_factored]⟩
  · rintro ⟨e, d, depth, h⟩
    rw [parser_factored] at h
    obtain ⟨e', d', h'⟩ := Parser.exists_fails_spread.mpr ⟨e, d, h⟩
    exact ⟨e', d', depth, by rwa [parser_spread]⟩

theorem Fails.likely_factored {e e' : Failure} {d d' : Cursor} (hr : rules.ScriptFree)
    (ha : a.ScriptFree) (hbs : ∀ g ∈ b :: bs, g.ScriptFree) (hc : c.WellFormed)
    (h : (spread a b bs).Fails rules c e d) (h' : (factored a b bs).Fails rules c e' d') :
    e.likely = e'.likely := by
  obtain ⟨n, h, h'⟩ := h.exists_depth h'
  have hd {g : Grammar} (hg : g.ScriptFree) : (g.parser rules n).Descending :=
    Parser.compositional_descending.parser hr n hg
  rw [parser_spread] at h
  rw [parser_factored] at h'
  refine Parser.likely_spread (hd ha) (hd (hbs b List.mem_cons_self)) ?_ hc h h'
  intro r hr'
  obtain ⟨g, hg, rfl⟩ := List.mem_map.mp hr'
  exact hd (hbs g (List.mem_cons_of_mem _ hg))

/-- Once the first part has consumed something, the two choices stood at two places. -/
theorem Fails.ne_factored {e e' : Failure} {v : Value} {m d d' : Cursor}
    (hv : a.Succeeds rules c v m) (hm : m.rest ≠ c.rest)
    (h : (spread a b bs).Fails rules c e d) (h' : (factored a b bs).Fails rules c e' d') :
    e ≠ e' := by
  obtain ⟨k, hv⟩ := hv
  obtain ⟨n, h, h'⟩ := h.exists_depth h'
  have h := fails_mono (Nat.le_max_left n k) h
  have h' := fails_mono (Nat.le_max_left n k) h'
  have hv := succeeds_mono (Nat.le_max_right n k) hv
  rw [parser_spread] at h
  rw [parser_factored] at h'
  obtain ⟨he, he'⟩ := Parser.rest_spread hv h h'
  rintro rfl
  rw [he] at he'
  exact hm (Option.some.inj he').symm

/-- Taking out the first part changes neither the outcomes nor the likely cause of a
failure, although the failures differ whenever the first part has consumed something. -/
theorem left_factoring (hr : rules.ScriptFree) (ha : a.ScriptFree)
    (hbs : ∀ g ∈ b :: bs, g.ScriptFree) (hc : c.WellFormed) :
    (∀ v d, (spread a b bs).Succeeds rules c v d ↔ (factored a b bs).Succeeds rules c v d) ∧
      ((∃ e d, (spread a b bs).Fails rules c e d) ↔
        ∃ e d, (factored a b bs).Fails rules c e d) ∧
      ∀ e d e' d', (spread a b bs).Fails rules c e d → (factored a b bs).Fails rules c e' d' →
        e.likely = e'.likely ∧
          ∀ v m, a.Succeeds rules c v m → m.rest ≠ c.rest → e ≠ e' := by
  refine ⟨fun v d ↦ succeeds_factored, exists_fails_factored, ?_⟩
  intro e d e' d' h h'
  exact ⟨h.likely_factored hr ha hbs hc h', fun v m hv hm ↦ Fails.ne_factored hv hm h h'⟩

/-- A first part that is read before a wrong letter: both forms fail, their trees differ
in the places of the choices, and their likely cause is the same, the last literal that is
missing. -/
theorem factoring_wrong_letter :
    let rules : Rules := fun _ ↦ .literal ['x']
    let a : Grammar := .rule "item"
    let b : Grammar := .literal ['y']
    let bs : List Grammar := [.literal ['z']]
    let c : Cursor := .start ['x', 'é']
    let es : List Failure := [.missingLiteral ['y'] ['é'], .missingLiteral ['z'] ['é']]
    let e : Failure := .noAlternative ['x', 'é'] es
    let e' : Failure := .noAlternative ['é'] es
    rules.ScriptFree ∧ a.ScriptFree ∧ (∀ g ∈ b :: bs, g.ScriptFree) ∧ c.WellFormed ∧
      (spread a b bs).Fails rules c e c ∧ (factored a b bs).Fails rules c e' c ∧
      (∀ v d, (spread a b bs).Succeeds rules c v d ↔ (factored a b bs).Succeeds rules c v d) ∧
      e.likely = e'.likely ∧ e.likely = .missingLiteral ['z'] ['é'] ∧ e ≠ e' := by
  intro rules a b bs c es e e'
  have hr : rules.ScriptFree := fun _ ↦ .literal _
  have ha : a.ScriptFree := .rule _
  have hbs : ∀ g ∈ b :: bs, g.ScriptFree := by
    intro g hg
    rcases List.mem_pair.mp hg with rfl | rfl
    · exact .literal _
    · exact .literal _
  have hc : c.WellFormed := Cursor.wellFormed_start (by decide)
  have h : (spread a b bs).Fails rules c e c := ⟨1, _, rfl⟩
  have h' : (factored a b bs).Fails rules c e' c := ⟨1, _, rfl⟩
  have hx : a.Succeeds rules c .unit ⟨['x', 'é'], 1⟩ := ⟨1, _, rfl⟩
  obtain ⟨hs, _, hf⟩ := left_factoring hr ha hbs hc
  obtain ⟨hl, hne⟩ := hf e c e' c h h'
  exact ⟨hr, ha, hbs, hc, h, h', hs, hl, rfl, hne _ _ hx (by decide)⟩

end Grammar

end Backtrack
