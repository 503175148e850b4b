import Backtrack.Parser.Lexical
import Backtrack.Parser.Sequence

/-!
# Person records

A person record is written as `name: John, age: 90`: a name of one or more letters and
an age in digits.
-/

namespace Backtrack

/-- A person. -/
structure Person where
  /-- The name, in letters. -/
  name : Text
  /-- The age in years. -/
  age : Int64
deriving DecidableEq, Repr

namespace Person

open Backtrack.Parser

/-- The part of a record that gives the name. -/
def nameField : Parser Text :=
  ((literal "name: ".toList).zip
    ((span Text.isAlphabetic).filter (fun t ↦ !t.isEmpty) "expected a name".toList)).map Prod.snd

/-- The part of a record that gives the age. -/
def ageField : Parser Int64 :=
  ((literal "age: ".toList).zip integer).map Prod.snd

/-- A record: the name, a comma, and the age. -/
def parser : Parser Person :=
  (nameField.zip3 (literal ", ".toList) ageField).map fun v ↦ ⟨v.1, v.2.2⟩

end Person

end Backtrack
