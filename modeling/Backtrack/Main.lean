import Backtrack.Person.Command

/-!
# The command line

Runs the person command and ends with its exit code.
-/

open Backtrack Person

def main (args : List String) : IO UInt32 := do
  match Command.run args with
  | none => return 1
  | some outcome =>
    IO.print (String.ofList outcome.output)
    IO.eprint (String.ofList outcome.errorOutput)
    return UInt32.ofNat outcome.exitCode
