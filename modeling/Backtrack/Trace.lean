import Backtrack.Failure.Message

/-!
# Traces

While it runs, a parser notes where it gave an alternative up or took consumed input
back.  Its trace is the list of these events in the order in which they happened.
-/

namespace Backtrack

/-- What a parser notes while it runs. -/
inductive Event where
  /-- A whole run consumed this many bytes of an input of that many. -/
  | consumed (position size : Nat)
  /-- The first of two alternatives failed. -/
  | firstFailed (e : Failure)
  /-- The alternative with this index failed. -/
  | alternativeFailed (index : Nat) (e : Failure)
  /-- The second stage of a sequence chosen by the first stage's value failed. -/
  | stageFailed (e : Failure)
  /-- The second part of a pair failed, and this many bytes are taken back. -/
  | rolledBack (bytes : Nat)
deriving DecidableEq

namespace Event

/-- The line that reports an event. -/
def message : Event → Text
  | consumed position size =>
    "run: consumed ".toList ++ Numeral.decimal position ++ " of ".toList ++
      Numeral.decimal size ++ " bytes".toList
  | firstFailed e => "or: first alternative failed: ".toList ++ e.message
  | alternativeFailed index e =>
    "choice: alternative ".toList ++ Numeral.decimal index ++ " failed: ".toList ++ e.message
  | stageFailed e => "flat_map: second stage failed, rolling back: ".toList ++ e.message
  | rolledBack bytes =>
    "zip: second parser failed, rolling back ".toList ++ Numeral.decimal bytes ++ " bytes".toList

end Event

end Backtrack
