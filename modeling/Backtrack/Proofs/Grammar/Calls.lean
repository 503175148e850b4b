import Backtrack.Proofs.Grammar.Depth
import Mathlib.Logic.Relation

/-!
# Which grammars run where

A grammar that runs from a cursor runs its parts: the parts of a sequence, each where the
one before it stopped, the alternatives of a choice until one succeeds, all from its start,
the grammar of a rule, and the grammar that a value chose.  `Calls` is one such step, from a
grammar and its cursor to a part and its cursor, and `Visits` is any number of them.  They
do not ask whether the whole comes to an end, so they also describe runs without an end.
-/

namespace Backtrack.Grammar

/-- The first grammar, run from its cursor, directly runs the second one from its own. -/
inductive Calls (rules : Rules) : Grammar × Cursor → Grammar × Cursor → Prop
  | zipFirst {a b : Grammar} {c : Cursor} : Calls rules (.zip a b, c) (a, c)
  | zipSecond {a b : Grammar} {c m : Cursor} {v : Value} :
      a.Succeeds rules c v m → Calls rules (.zip a b, c) (b, m)
  | zip3First {a b b' : Grammar} {c : Cursor} : Calls rules (.zip3 a b b', c) (a, c)
  | zip3Second {a b b' : Grammar} {c m : Cursor} {v : Value} :
      a.Succeeds rules c v m → Calls rules (.zip3 a b b', c) (b, m)
  | zip3Third {a b b' : Grammar} {c m m' : Cursor} {v w : Value} :
      a.Succeeds rules c v m → b.Succeeds rules m w m' → Calls rules (.zip3 a b b', c) (b', m')
  | orElseFirst {a b : Grammar} {c : Cursor} : Calls rules (.orElse a b, c) (a, c)
  | orElseSecond {a b : Grammar} {c d : Cursor} {e : Failure} :
      a.Fails rules c e d → Calls rules (.orElse a b, c) (b, c)
  | choice {a b : Grammar} {bs before after : List Grammar} {c : Cursor} :
      a :: bs = before ++ b :: after → (∀ q ∈ before, ∃ e d, q.Fails rules c e d) →
        Calls rules (.choice a bs, c) (b, c)
  | map {a : Grammar} {f : Value → Value} {c : Cursor} : Calls rules (.map a f, c) (a, c)
  | tryMap {a : Grammar} {f : Value → Except Text Value} {c : Cursor} :
      Calls rules (.tryMap a f, c) (a, c)
  | filter {a : Grammar} {keep : Value → Bool} {reason : Text} {c : Cursor} :
      Calls rules (.filter a keep reason, c) (a, c)
  | flatMapFirst {a : Grammar} {k : Value → Grammar} {c : Cursor} :
      Calls rules (.flatMap a k, c) (a, c)
  | flatMapNext {a : Grammar} {k : Value → Grammar} {c m : Cursor} {v : Value} :
      a.Succeeds rules c v m → Calls rules (.flatMap a k, c) (k v, m)
  | rule {name : String} {c : Cursor} : Calls rules (.rule name, c) (rules name, c)

/-- The first grammar, run from its cursor, comes to run the second one from its own. -/
abbrev Visits (rules : Rules) : Grammar × Cursor → Grammar × Cursor → Prop :=
  Relation.ReflTransGen (Calls rules)

end Backtrack.Grammar
