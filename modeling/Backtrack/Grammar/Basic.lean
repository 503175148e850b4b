import Backtrack.Script
import Backtrack.Value.Basic

/-!
# Grammars

A grammar is a parser as data: a tree of combinators over scripts and the lexical
parsers, with values of one type throughout.  Grammars refer to each other by the
names of rules, and so to themselves.
-/

namespace Backtrack

/-- A grammar over named rules. -/
inductive Grammar where
  /-- The next character. -/
  | anyChar
  /-- The longest run of numerals, as a number. -/
  | integer
  /-- One of the spellings of a truth value. -/
  | boolean
  /-- Exactly the expected text; its value is the unit. -/
  | literal (expected : Text)
  /-- The longest run of accepted characters. -/
  | span (accepts : Char → Bool)
  /-- Success with a value, without looking at the input. -/
  | always (v : Value)
  /-- Failure on every input. -/
  | never
  /-- A hand-written parser. -/
  | script (s : Script Value)
  /-- Two grammars in sequence, for a pair. -/
  | zip (first second : Grammar)
  /-- Three grammars in sequence, for a triple. -/
  | zip3 (first second third : Grammar)
  /-- The first of two grammars that succeeds. -/
  | orElse (first second : Grammar)
  /-- The first of several grammars that succeeds. -/
  | choice (first : Grammar) (others : List Grammar)
  /-- A grammar with its value transformed. -/
  | map (inner : Grammar) (f : Value → Value)
  /-- A grammar with its value converted, which can be refused. -/
  | tryMap (inner : Grammar) (f : Value → Except Text Value)
  /-- A grammar with its value tested. -/
  | filter (inner : Grammar) (keep : Value → Bool) (reason : Text)
  /-- A grammar, and then the one that its value chooses. -/
  | flatMap (first : Grammar) (next : Value → Grammar)
  /-- The grammar of a rule. -/
  | rule (name : String)

/-- The grammar that each rule name stands for. -/
abbrev Rules := String → Grammar

end Backtrack
