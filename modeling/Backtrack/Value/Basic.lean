import Backtrack.Numeral

/-!
# Values

The values of grammars that are given as data: units, truth values, numbers,
characters, texts, and tuples of values.  Values of different kinds are never equal.
-/

namespace Backtrack

/-- A value of a grammar. -/
inductive Value where
  | unit
  | bool (b : Bool)
  | int (n : Int64)
  | char (c : Char)
  | str (t : Text)
  | tuple (items : List Value)
deriving Repr

namespace Value

/-! ## Equality -/

mutual

/-- Whether two values have the same shape and the same leaves. -/
def same : Value → Value → Bool
  | unit, unit => true
  | bool a, bool b => a == b
  | int m, int n => m == n
  | char a, char b => a == b
  | str s, str t => s == t
  | tuple vs, tuple ws => sameItems vs ws
  | _, _ => false

/-- Whether two lists of values are the same, one by one. -/
def sameItems : List Value → List Value → Bool
  | [], [] => true
  | v :: vs, w :: ws => same v w && sameItems vs ws
  | _, _ => false

end

mutual

theorem same_self : ∀ v : Value, same v v = true
  | unit => rfl
  | bool b => by simp [same]
  | int n => by simp [same]
  | char c => by simp [same]
  | str t => by simp [same]
  | tuple vs => by simp [same, sameItems_self vs]

theorem sameItems_self : ∀ vs : List Value, sameItems vs vs = true
  | [] => rfl
  | v :: vs => by simp [sameItems, same_self v, sameItems_self vs]

end

mutual

theorem eq_of_same : ∀ {v w : Value}, same v w = true → v = w
  | unit, w, h => by cases w <;> simp_all [same]
  | bool b, w, h => by cases w <;> simp_all [same]
  | int n, w, h => by cases w <;> simp_all [same]
  | char c, w, h => by cases w <;> simp_all [same]
  | str t, w, h => by cases w <;> simp_all [same]
  | tuple vs, w, h => by
      cases w with
      | tuple ws =>
          simp only [same] at h
          rw [eq_of_sameItems h]
      | _ => simp [same] at h

theorem eq_of_sameItems : ∀ {vs ws : List Value}, sameItems vs ws = true → vs = ws
  | [], [], _ => rfl
  | v :: vs, w :: ws, h => by
      simp only [sameItems, Bool.and_eq_true] at h
      rw [eq_of_same h.1, eq_of_sameItems h.2]
  | [], _ :: _, h => by simp [sameItems] at h
  | _ :: _, [], h => by simp [sameItems] at h

end

instance : DecidableEq Value := fun v w ↦
  if h : same v w = true then isTrue (eq_of_same h)
  else isFalse fun hvw ↦ h (hvw ▸ same_self v)

/-! ## Views -/

mutual

/-- A value written as text.  Characters and texts stand for themselves. -/
def text : Value → Text
  | unit => "()".toList
  | bool b => if b then "true".toList else "false".toList
  | int n => Numeral.signed n.toInt
  | char c => [c]
  | str t => t
  | tuple vs => '(' :: textItems vs ++ [')']

/-- The texts of values, with commas between them. -/
def textItems : List Value → Text
  | [] => []
  | [v] => text v
  | v :: vs => text v ++ ", ".toList ++ textItems vs

end

mutual

/-- The values that are no tuples, in order and without the units. -/
def leaves : Value → List Value
  | unit => []
  | bool b => [bool b]
  | int n => [int n]
  | char c => [char c]
  | str t => [str t]
  | tuple vs => leavesItems vs

/-- The leaves of values, one after the other. -/
def leavesItems : List Value → List Value
  | [] => []
  | v :: vs => leaves v ++ leavesItems vs

end

end Value

end Backtrack
