import Backtrack.Grammar.Parser
import Mathlib.Data.List.Forall2

/-!
# Relations between the parsers of a grammar

A grammar means a parser once its rules do.  Two meanings of one grammar may differ in
the parsers of the rules, and in something that is done to every parser that the
grammar is made of: `interpretWith` passes each of them through a transformation, and
the identity gives the ordinary meaning back.

A relation between parsers that every combinator keeps is a `Congruence`.  It relates
the two meanings of every grammar as soon as it relates those of the rules and is kept
by the transformation.  What a congruence says of a grammar is thus shown once for each
combinator and never again for grammars.
-/

namespace Backtrack

namespace Grammar

/-- Induction over a grammar and the grammars that it is made of, the alternatives of a
choice and the grammars chosen by a value included. -/
@[elab_as_elim, induction_eliminator]
theorem induct {motive : Grammar → Prop} (anyChar : motive .anyChar) (integer : motive .integer)
    (boolean : motive .boolean) (literal : ∀ x, motive (.literal x))
    (span : ∀ accepts, motive (.span accepts)) (always : ∀ v, motive (.always v))
    (never : motive .never) (script : ∀ s, motive (.script s))
    (zip : ∀ a b, motive a → motive b → motive (.zip a b))
    (zip3 : ∀ a b c, motive a → motive b → motive c → motive (.zip3 a b c))
    (orElse : ∀ a b, motive a → motive b → motive (.orElse a b))
    (choice : ∀ a bs, motive a → (∀ b ∈ bs, motive b) → motive (.choice a bs))
    (map : ∀ a f, motive a → motive (.map a f))
    (tryMap : ∀ a f, motive a → motive (.tryMap a f))
    (filter : ∀ a keep reason, motive a → motive (.filter a keep reason))
    (flatMap : ∀ a k, motive a → (∀ v, motive (k v)) → motive (.flatMap a k))
    (rule : ∀ name, motive (.rule name)) (g : Grammar) : motive g := by
  refine Grammar.rec (motive_1 := motive) (motive_2 := fun gs ↦ ∀ g ∈ gs, motive g)
    anyChar integer boolean literal span always never script zip zip3 orElse choice map tryMap
    filter flatMap rule ?_ ?_ g
  · intro g hg
    cases hg
  · intro g gs hg hgs h hh
    rcases List.mem_cons.mp hh with rfl | hh
    · exact hg
    · exact hgs h hh

/-! ## Transformed meanings -/

section Transformed

variable (w : ∀ ⦃α : Type⦄, Parser α → Parser α)

/-- The parser of truth values, made of transformed parsers. -/
def booleanWith : Parser Bool :=
  w (.orElse
    (w (.map (w (.orElse (w (.literal "true".toList)) (w (.literal "True".toList))))
      fun _ ↦ true))
    (w (.map (w (.orElse (w (.literal "false".toList)) (w (.literal "False".toList))))
      fun _ ↦ false)))

mutual

/-- The parser of a grammar in which every parser is transformed, the parsers that the
combinators are made of included. -/
def interpretWith (rules : String → Parser Value) : Grammar → Parser Value
  | anyChar => w (.map (w .anyChar) .char)
  | integer => w (.map (w .integer) .int)
  | boolean => w (.map (booleanWith w) .bool)
  | literal expected => w (.map (w (.literal expected)) fun _ ↦ .unit)
  | span accepts => w (.map (w (.span accepts)) .str)
  | always v => w (.always v)
  | never => w .never
  | script s => w s.toParser
  | zip a b =>
    w (.map (w (.zip (interpretWith rules a) (interpretWith rules b))) fun v ↦
      .tuple [v.1, v.2])
  | zip3 a b c =>
    w (.map (w (.zip (interpretWith rules a)
        (w (.zip (interpretWith rules b) (interpretWith rules c))))) fun v ↦
      .tuple [v.1, v.2.1, v.2.2])
  | orElse a b => w (.orElse (interpretWith rules a) (interpretWith rules b))
  | choice a bs => w (.choice (interpretWith rules a) (interpretAllWith rules bs))
  | map a f => w (.map (interpretWith rules a) f)
  | tryMap a f => w (.tryMap (interpretWith rules a) f)
  | filter a keep reason => w (.filter (interpretWith rules a) keep reason)
  | flatMap a k => w (.flatMap (interpretWith rules a) fun v ↦ interpretWith rules (k v))
  | rule name => w (.delay fun _ ↦ rules name)

/-- The parsers of the alternatives of a choice, each made of transformed parsers. -/
def interpretAllWith (rules : String → Parser Value) : List Grammar → List (Parser Value)
  | [] => []
  | a :: as => interpretWith rules a :: interpretAllWith rules as

end

theorem interpretAllWith_eq_map (rules : String → Parser Value) (as : List Grammar) :
    interpretAllWith w rules as = as.map (interpretWith w rules) := by
  induction as with
  | nil => rfl
  | cons a as ih => rw [interpretAllWith, ih, List.map_cons]

end Transformed

/-- Parsers that are left as they are make the ordinary parser of a grammar. -/
theorem interpretWith_id (rules : String → Parser Value) (g : Grammar) :
    interpretWith (fun _ p ↦ p) rules g = interpret rules g := by
  induction g with
  | choice a bs ha hbs =>
      rw [interpretWith, interpret, ha, interpretAllWith_eq_map, interpretAll_eq_map]
      rw [List.map_congr_left hbs]
  | flatMap a k ha hk => simp only [interpretWith, interpret, ha, hk]
  | zip3 a b c ha hb hc => simp only [interpretWith, interpret, Parser.zip3, ha, hb, hc]
  | _ => simp only [interpretWith, interpret, booleanWith, Parser.boolean, *]

end Grammar

/-- The parser of a rule that is made of transformed parsers and unfolded at most
`depth` times inside itself or other rules. -/
def Rules.parserWith (w : ∀ ⦃α : Type⦄, Parser α → Parser α) (rules : Rules) :
    Nat → String → Parser Value
  | 0, _ => Parser.endless
  | depth + 1, name => (rules name).interpretWith w (rules.parserWith w depth)

/-! ## Congruences -/

/-- A relation between parsers that every combinator keeps. -/
structure Parser.Congruence (R : ∀ ⦃α : Type⦄, Parser α → Parser α → Prop) : Prop where
  refl {α : Type} (p : Parser α) : R p p
  map {α β : Type} {p p' : Parser α} (f : α → β) : R p p' → R (p.map f) (p'.map f)
  tryMap {α β : Type} {p p' : Parser α} (f : α → Except Text β) :
    R p p' → R (p.tryMap f) (p'.tryMap f)
  filter {α : Type} {p p' : Parser α} (keep : α → Bool) (reason : Text) :
    R p p' → R (p.filter keep reason) (p'.filter keep reason)
  zip {α β : Type} {p p' : Parser α} {q q' : Parser β} :
    R p p' → R q q' → R (p.zip q) (p'.zip q')
  flatMap {α β : Type} {p p' : Parser α} {k k' : α → Parser β} :
    R p p' → (∀ a, R (k a) (k' a)) → R (p.flatMap k) (p'.flatMap k')
  orElse {α : Type} {p p' q q' : Parser α} :
    R p p' → R q q' → R (p.orElse q) (p'.orElse q')
  choice {α : Type} {p p' : Parser α} {qs qs' : List (Parser α)} :
    R p p' → List.Forall₂ (R (α := α)) qs qs' → R (.choice p qs) (.choice p' qs')

namespace Parser.Congruence

variable {R : ∀ ⦃α : Type⦄, Parser α → Parser α → Prop} (h : Parser.Congruence R)

section Transformed

variable {w : ∀ ⦃α : Type⦄, Parser α → Parser α}
variable (hw : ∀ {α : Type} {p q : Parser α}, R p q → R p (w q))

include h hw

theorem booleanWith : R Parser.boolean (Grammar.booleanWith w) := by
  have hlit : ∀ x, R (.literal x) (w (.literal x)) := fun x ↦ hw (h.refl _)
  have hor : ∀ x y, R (.orElse (.literal x) (.literal y))
      (w (.orElse (w (.literal x)) (w (.literal y)))) := fun x y ↦ hw (h.orElse (hlit x) (hlit y))
  exact hw (h.orElse (hw (h.map _ (hor _ _))) (hw (h.map _ (hor _ _))))

/-- A congruence that the transformation keeps relates the two meanings of a grammar if
it relates those of the rules. -/
theorem interpretWith {rules rules' : String → Parser Value}
    (hrules : ∀ name, R (rules name) (rules' name)) (g : Grammar) :
    R (g.interpret rules) (g.interpretWith w rules') := by
  induction g with
  | anyChar => exact hw (h.map _ (hw (h.refl _)))
  | integer => exact hw (h.map _ (hw (h.refl _)))
  | boolean => exact hw (h.map _ (h.booleanWith hw))
  | literal x => exact hw (h.map _ (hw (h.refl _)))
  | span accepts => exact hw (h.map _ (hw (h.refl _)))
  | always v => exact hw (h.refl _)
  | never => exact hw (h.refl _)
  | script s => exact hw (h.refl _)
  | zip a b ha hb => exact hw (h.map _ (hw (h.zip ha hb)))
  | zip3 a b c ha hb hc => exact hw (h.map _ (hw (h.zip ha (hw (h.zip hb hc)))))
  | orElse a b ha hb => exact hw (h.orElse ha hb)
  | choice a bs ha hbs =>
      rw [Grammar.interpret, Grammar.interpretWith, Grammar.interpretAll_eq_map,
        Grammar.interpretAllWith_eq_map]
      refine hw (h.choice ha ?_)
      rw [List.forall₂_map_left_iff, List.forall₂_map_right_iff, List.forall₂_same]
      exact hbs
  | map a f ha => exact hw (h.map f ha)
  | tryMap a f ha => exact hw (h.tryMap f ha)
  | filter a keep reason ha => exact hw (h.filter keep reason ha)
  | flatMap a k ha hk => exact hw (h.flatMap ha hk)
  | rule name => exact hw (hrules name)

/-- A congruence that the transformation keeps relates the two meanings of the rules, at
every depth. -/
theorem parserWith (rules : Rules) (depth : Nat) (name : String) :
    R (rules.parser depth name) (rules.parserWith w depth name) := by
  induction depth generalizing name with
  | zero => exact h.refl _
  | succ depth ih => exact h.interpretWith hw ih (rules name)

end Transformed

include h in
/-- A congruence relates two parsers of a grammar if it relates those of the rules. -/
theorem interpret {rules rules' : String → Parser Value}
    (hrules : ∀ name, R (rules name) (rules' name)) (g : Grammar) :
    R (g.interpret rules) (g.interpret rules') := by
  rw [← Grammar.interpretWith_id rules' g]
  exact h.interpretWith (fun hpq ↦ hpq) hrules g

end Parser.Congruence

end Backtrack
