import Backtrack.Failure.Basic

/-!
# The likely cause of a failure

Of all attempts of a choice, the likely cause of its failure is the one that got
furthest into the input, and of several such attempts the last.  Choices inside
choices are searched in the same way.
-/

namespace Backtrack.Failure

/-- How far into the input a failure got: the less is left, the further.  A failure
without a place is behind all others. -/
def progress (e : Failure) : Int64 :=
  match e.rest? with
  | some r => -(Int64.ofNat r.byteSize)
  | none => Int64.minValue

/-- The candidate, unless the best failure so far got strictly further. -/
def further (best : Option Failure) (candidate : Failure) : Failure :=
  match best with
  | some b => if candidate.progress < b.progress then b else candidate
  | none => candidate

mutual

/-- The failure that best explains `e`: the last of those that got furthest. -/
def likely : Failure → Failure
  | noAlternative r as => (likelyAmong none as).getD (noAlternative r as)
  | never => never
  | notNumber d r => notNumber d r
  | missingLiteral x r => missingLiteral x r
  | endOfInput => endOfInput
  | rejected m r => rejected m r

/-- The last of the furthest likely failures of a list and the best one before it. -/
def likelyAmong : Option Failure → List Failure → Option Failure
  | best, [] => best
  | best, e :: es => likelyAmong (some (further best (likely e))) es

end

end Backtrack.Failure
