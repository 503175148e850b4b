import Backtrack.Failure.Likely
import Backtrack.Parser.Run
import Backtrack.Person.Basic

/-!
# The person command

The command parses one person record and prints it.  Input that is left over is
printed too, or refused when the command is strict.

What its arguments ask for is found out by a reader, and any reader will do
(`runWith`).
-/

namespace Backtrack.Person.Command

/-! ## Outcome -/

/-- How the command ends. -/
inductive Outcome where
  /-- With a report. -/
  | report (lines : Text)
  /-- With an error. -/
  | error (message : Text)
  /-- With a complaint about its arguments. -/
  | misuse
deriving DecidableEq, Repr

namespace Outcome

/-- The exit code of the command. -/
def exitCode : Outcome → Nat
  | report _ => 0
  | error _ => 1
  | misuse => 2

/-- What the command prints. -/
def output : Outcome → Text
  | report lines => lines
  | _ => []

/-- What the command prints about an error. -/
def errorOutput : Outcome → Text
  | error message => "Error: ".toList ++ message.quoted ++ ['\n']
  | _ => []

end Outcome

/-! ## Parsing a record -/

/-- The lines that report a person and the input after the record. -/
def reportOf (p : Person) (rest : Text) : Text :=
  "name: ".toList ++ p.name ++ "\nage: ".toList ++ Numeral.signed p.age.toInt ++ ['\n'] ++
    if rest.isEmpty then [] else "rest: ".toList ++ rest.quoted ++ ['\n']

/-- What comes of parsing a record. -/
def outcomeOf (strict : Bool) : Except Failure (Person × Text) → Outcome
  | .ok (p, rest) =>
    if strict && !rest.isEmpty then
      .error ("unexpected trailing input ".toList ++ rest.quoted)
    else .report (reportOf p rest)
  | .error e => .error e.likely.message

/-- Runs the command on a record; the parser of records always comes to an end. -/
def parseRecord (strict : Bool) (record : Text) : Option Outcome :=
  (Person.parser.run record).map fun r ↦ outcomeOf strict r.outcome

/-! ## Arguments -/

/-- What the arguments ask for. -/
structure Options where
  /-- The record. -/
  record : String
  /-- Whether input that is left over is refused. -/
  strict : Bool
deriving DecidableEq, Repr

/-- Finds out what arguments ask for, or else how the command ends at once. -/
abbrev Reader := List String → Except Outcome Options

/-- Runs the command with a reader of its arguments. -/
def runWith (read : Reader) (args : List String) : Option Outcome :=
  match read args with
  | .error outcome => some outcome
  | .ok o => parseRecord o.strict o.record.toList

end Backtrack.Person.Command
