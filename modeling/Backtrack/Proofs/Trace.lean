import Backtrack.Proofs.Numeral
import Backtrack.Trace

/-!
# The lines of a trace

A trace is shown with a line for each event.  A line tells by its first letter which kind of
event it reports, and the line of what was taken back tells the number of bytes too
(`message_eq_rolledBack`).  So where such a line stands among the lines, its event stands in the
trace (`concat_prefix_map_message`), and what is said of lines can be proved of events.
-/

namespace Backtrack.Event

variable {x : Event} {es : List Event} {line : Text} {lines : List Text}

/-! ## Kinds -/

/-- The first letter of the line that reports the event. -/
def initial : Event → Char
  | consumed _ _ => 'r'
  | firstFailed _ => 'o'
  | alternativeFailed _ _ => 'c'
  | stageFailed _ => 'f'
  | rolledBack _ => 'z'

theorem head?_message (x : Event) : x.message.head? = some x.initial := by
  cases x <;> rfl

theorem initial_of_prefix {c : Char} {t : Text} (h : c :: t <+: x.message) : x.initial = c := by
  obtain ⟨rest, hrest⟩ := h
  have hhead := x.head?_message
  rw [← hrest] at hhead
  exact (Option.some.inj hhead).symm

/-- A line that starts as those of whole runs do reports how much a run consumed. -/
theorem exists_consumed_of_prefix (h : "run: ".toList <+: x.message) :
    ∃ p n, x = .consumed p n := by
  have hinitial : x.initial = 'r' := initial_of_prefix h
  cases x with
  | consumed p n => exact ⟨p, n, rfl⟩
  | _ => simp [initial] at hinitial

/-- A line that starts as those of pairs do reports how much a pair takes back. -/
theorem exists_rolledBack_of_prefix (h : "zip: ".toList <+: x.message) :
    ∃ m, x = .rolledBack m := by
  have hinitial : x.initial = 'z' := initial_of_prefix h
  cases x with
  | rolledBack m => exact ⟨m, rfl⟩
  | _ => simp [initial] at hinitial

/-- The line of what is taken back is that of one event only. -/
theorem message_eq_rolledBack {m : Nat} : x.message =
    "zip: second parser failed, rolling back ".toList ++ Numeral.decimal m ++ " bytes".toList ↔
      x = .rolledBack m := by
  constructor
  · intro h
    have hzip : "zip: ".toList <+: x.message := by
      rw [h, List.append_assoc]
      exact ⟨"second parser failed, rolling back ".toList ++ _, rfl⟩
    obtain ⟨k, rfl⟩ := exists_rolledBack_of_prefix hzip
    have hdigits : Numeral.decimal k = Numeral.decimal m :=
      List.append_cancel_left (List.append_cancel_right h)
    rw [Numeral.decimal_injective hdigits]
  · rintro rfl
    rfl

/-! ## Places -/

/-- What stands before a line are the lines of what stands before its event. -/
theorem concat_prefix_map_message : lines ++ [line] <+: es.map message ↔
    ∃ pre x, lines = pre.map message ∧ line = x.message ∧ pre ++ [x] <+: es := by
  rw [List.prefix_map_iff]
  constructor
  · rintro ⟨fs, hfs, hlines⟩
    obtain ⟨pre, last, rfl, rfl, hlast⟩ := List.append_eq_map_iff.mp hlines
    obtain ⟨x, rfl, rfl⟩ := List.map_eq_singleton_iff.mp hlast
    exact ⟨pre, x, rfl, rfl, hfs⟩
  · rintro ⟨pre, x, rfl, rfl, h⟩
    exact ⟨pre ++ [x], h, by simp⟩

end Backtrack.Event
