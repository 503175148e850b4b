import Backtrack.Grammar.Basic

/-!
# Choosing a grammar by a value

Functions from the value of a first stage to the grammar of the second.
-/

namespace Backtrack.Grammar

/-- The text of the value, literally. -/
def literalOf (v : Value) : Grammar := literal v.text

/-- The grammar of the first case that the value is equal to, or else `otherwise`. -/
def select (cases : List (Value × Grammar)) (otherwise : Grammar) (v : Value) : Grammar :=
  ((cases.find? fun c ↦ c.1 = v).map Prod.snd).getD otherwise

/-- A field whose length in bytes is the value. -/
def counted : Value → Grammar
  | .int n => script ((Script.field n.toInt).map .str)
  | _ => never

/-- How often a grammar may be repeated. -/
def repeatLimit : Nat := 1000

/-- The grammar `n` times in sequence, as nested pairs that end with the unit. -/
def repeated (g : Grammar) : Nat → Grammar
  | 0 => always .unit
  | n + 1 => zip g (repeated g n)

/-- The grammar as often as the value says.  A negative number counts as zero, and one
above the limit never succeeds. -/
def repeatedBy (g : Grammar) : Value → Grammar
  | .int n => if repeatLimit < n.toInt then never else repeated g n.toInt.toNat
  | _ => never

end Backtrack.Grammar
