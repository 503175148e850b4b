import Backtrack.Person.Report

/-!
# Arguments on the command line

The reader of arguments that the command line uses: at most one record, which has a
default, and the flag `--strict`.  It knows no request for a help text, and takes it
for a mistake.  Nothing that is proved of the command rests on it.
-/

namespace Backtrack.Person.Command

namespace CommandLine

/-- The arguments that have been read. -/
structure Given where
  /-- The record, if one is given. -/
  record : Option String
  /-- Whether the command is asked to be strict. -/
  strict : Bool
deriving DecidableEq, Repr

/-- The record that is parsed when none is given. -/
def defaultRecord : String := "name: John, age: 90"

/-- Takes an argument as the record, of which there is at most one. -/
def Given.withRecord? (o : Given) (arg : String) : Option Given :=
  if o.record.isSome then none else some { o with record := some arg }

/-- What has been asked for. -/
def Given.options (o : Given) : Options := ⟨o.record.getD defaultRecord, o.strict⟩

/-- Whether an argument is written as an option.  A dash alone is not. -/
def isFlag (arg : String) : Bool :=
  match arg.toList with
  | '-' :: _ :: _ => true
  | _ => false

/-- Reads arguments that are all records. -/
def readRecords : Given → List String → Option Given
  | o, [] => some o
  | o, arg :: args => do readRecords (← o.withRecord? arg) args

/-- Reads arguments.  The only flag is `--strict`, at most once; after `--` no
argument is a flag. -/
def readArguments : Given → List String → Option Given
  | o, [] => some o
  | o, arg :: args =>
    if arg = "--" then readRecords o args
    else if arg = "--strict" then
      if o.strict then none else readArguments { o with strict := true } args
    else if isFlag arg then none
    else do readArguments (← o.withRecord? arg) args

/-- The reader of the command line. -/
def reader : Reader := fun args ↦
  match readArguments ⟨none, false⟩ args with
  | none => .error .misuse
  | some o => .ok o.options

end CommandLine

/-- Runs the command. -/
def run (args : List String) : Option Outcome := runWith CommandLine.reader args

end Backtrack.Person.Command
