import Backtrack.Failure.Basic
import Backtrack.Numeral
import Backtrack.Text.Quoted

/-!
# The text of a failure

A failure has a message for the reader of a report, and a description that shows its
whole structure on one line.
-/

namespace Backtrack.Failure

/-! ## Messages -/

/-- The message that reports a failure. -/
def message : Failure → Text
  | never => "parser never succeeds".toList
  | noAlternative r as =>
    "no alternative matched at ".toList ++ r.quoted ++ " (".toList ++
      Numeral.decimal as.length ++ " attempts)".toList
  | notNumber d r =>
    "expected a number, found ".toList ++ d.quoted ++ " at ".toList ++ r.quoted
  | missingLiteral x r => "expected ".toList ++ x.quoted ++ ", found ".toList ++ r.quoted
  | endOfInput => "unexpected end of input".toList
  | rejected m r => m ++ " at ".toList ++ r.quoted

/-! ## Descriptions -/

/-- The word that names a kind of failure in a description. -/
def Kind.label : Kind → Text
  | never => "Never".toList
  | noAlternative => "UnexpectedEnd".toList
  | notNumber => "NotANumber".toList
  | missingLiteral => "LiteralNotFound".toList
  | endOfInput => "EmptyInput".toList
  | rejected => "Custom".toList

/-- A description with two labelled parts. -/
def labelled (k : Kind) (label₁ : String) (part₁ : Text) (label₂ : String) (part₂ : Text) : Text :=
  k.label ++ " \x7b ".toList ++ label₁.toList ++ ": ".toList ++ part₁ ++ ", ".toList ++
    label₂.toList ++ ": ".toList ++ part₂ ++ " \x7d".toList

mutual

/-- A failure written out with all its texts and attempts. -/
def describe : Failure → Text
  | never => Kind.never.label
  | noAlternative r as =>
    labelled .noAlternative "remaining" r.quoted "attempts" ('[' :: describeAll as ++ [']'])
  | notNumber d r => labelled .notNumber "digits" d.quoted "remaining" r.quoted
  | missingLiteral x r => labelled .missingLiteral "expected" x.quoted "remaining" r.quoted
  | endOfInput => Kind.endOfInput.label
  | rejected m r => labelled .rejected "message" m.quoted "remaining" r.quoted

/-- Failures written out one after the other, with commas between them. -/
def describeAll : List Failure → Text
  | [] => []
  | [e] => describe e
  | e :: es => describe e ++ ", ".toList ++ describeAll es

end

end Backtrack.Failure
