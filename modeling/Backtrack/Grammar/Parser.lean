import Backtrack.Grammar.Basic
import Backtrack.Parser.Lexical
import Backtrack.Parser.Run
import Backtrack.Parser.Sequence

/-!
# The parser of a grammar

A grammar is interpreted by the combinators that it is made of, given a parser for
each rule.  The rules' own parsers are unfoldings of their grammars: with depth `n`, a
rule may be unfolded inside itself or others `n` times, and a parser that would go
deeper comes to no end.
-/

namespace Backtrack

namespace Grammar

mutual

/-- The parser of a grammar, where `rules` has the parser of each rule. -/
def interpret (rules : String → Parser Value) : Grammar → Parser Value
  | anyChar => Parser.anyChar.map .char
  | integer => Parser.integer.map .int
  | boolean => Parser.boolean.map .bool
  | literal expected => (Parser.literal expected).map fun _ ↦ .unit
  | span accepts => (Parser.span accepts).map .str
  | always v => Parser.always v
  | never => Parser.never
  | script s => s.toParser
  | zip a b => ((interpret rules a).zip (interpret rules b)).map fun v ↦ .tuple [v.1, v.2]
  | zip3 a b c =>
    ((interpret rules a).zip3 (interpret rules b) (interpret rules c)).map fun v ↦
      .tuple [v.1, v.2.1, v.2.2]
  | orElse a b => (interpret rules a).orElse (interpret rules b)
  | choice a bs => Parser.choice (interpret rules a) (interpretAll rules bs)
  | map a f => (interpret rules a).map f
  | tryMap a f => (interpret rules a).tryMap f
  | filter a keep reason => (interpret rules a).filter keep reason
  | flatMap a k => (interpret rules a).flatMap fun v ↦ interpret rules (k v)
  | rule name => Parser.delay fun _ ↦ rules name

/-- The parsers of the alternatives of a choice. -/
def interpretAll (rules : String → Parser Value) : List Grammar → List (Parser Value)
  | [] => []
  | a :: as => interpret rules a :: interpretAll rules as

end

theorem interpretAll_eq_map (rules : String → Parser Value) (as : List Grammar) :
    interpretAll rules as = as.map (interpret rules) := by
  induction as with
  | nil => rfl
  | cons a as ih => rw [interpretAll, ih, List.map_cons]

end Grammar

/-- The parser of a rule that is unfolded at most `depth` times inside itself or other
rules. -/
def Rules.parser (rules : Rules) : Nat → String → Parser Value
  | 0, _ => Parser.endless
  | depth + 1, name => (rules name).interpret (rules.parser depth)

/-- The parser of a grammar over rules, with nested rules up to a depth. -/
def Grammar.parser (g : Grammar) (rules : Rules) (depth : Nat) : Parser Value :=
  g.interpret (rules.parser depth)

end Backtrack
