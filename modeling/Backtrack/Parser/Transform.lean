import Backtrack.Parser.Basic

/-!
# Transforming and testing values

A parser's value may be transformed, converted by a function that can refuse it, or
tested.  A refused conversion leaves the cursor after the value, because its text did
match; a failed test puts the cursor back, because the match is taken as none.
-/

namespace Backtrack.Parser

variable {α β : Type}

/-- Runs `p` and transforms its value. -/
def map (p : Parser α) (f : α → β) : Parser β := do
  return f (← p)

/-- Transforming the value of `p` is mapping over it. -/
theorem map_eq (p : Parser α) (f : α → β) : p.map f = f <$> p := by
  rw [map, bind_pure_comp]

theorem map_map {γ : Type} (p : Parser α) (f : α → β) (g : β → γ) :
    (p.map f).map g = p.map fun a ↦ g (f a) := by
  simp only [map_eq, Functor.map_map]

theorem map_id (p : Parser α) : (p.map fun a ↦ a) = p := by
  rw [map_eq, id_map']

theorem parse_map (p : Parser α) (f : α → β) (c : Cursor) :
    (p.map f).parse c = match p.parse c with
      | none => none
      | some ⟨.ok a, d, es⟩ => some ⟨.ok (f a), d, es⟩
      | some ⟨.error e, d, es⟩ => some ⟨.error e, d, es⟩ := by
  rw [map, parse_bind]
  rcases p.parse c with _ | ⟨_ | a, d, es⟩ <;> simp

/-- Runs `p` and converts its value.  When the conversion refuses the value, the
parser fails where `p` stopped. -/
def tryMap (p : Parser α) (f : α → Except Text β) : Parser β := do
  let a ← p
  match f a with
  | .ok b => return b
  | .error reason => do
    let stop ← here
    fail (.rejected reason stop.rest)

theorem parse_tryMap (p : Parser α) (f : α → Except Text β) (c : Cursor) :
    (p.tryMap f).parse c = match p.parse c with
      | none => none
      | some ⟨.ok a, d, es⟩ =>
        match f a with
        | .ok b => some ⟨.ok b, d, es⟩
        | .error reason => some ⟨.error (.rejected reason d.rest), d, es⟩
      | some ⟨.error e, d, es⟩ => some ⟨.error e, d, es⟩ := by
  rw [tryMap, parse_bind]
  rcases p.parse c with _ | ⟨_ | a, d, es⟩
  · rfl
  · rfl
  · cases h : f a <;> simp [h]

/-- Runs `p` and tests its value.  When the test fails, the parser fails where `p`
started. -/
def filter (p : Parser α) (keep : α → Bool) (reason : Text) : Parser α := do
  let start ← here
  let a ← p
  if keep a then return a else failAt start (.rejected reason start.rest)

theorem parse_filter (p : Parser α) (keep : α → Bool) (reason : Text) (c : Cursor) :
    (p.filter keep reason).parse c = match p.parse c with
      | none => none
      | some ⟨.ok a, d, es⟩ =>
        if keep a then some ⟨.ok a, d, es⟩ else some ⟨.error (.rejected reason c.rest), c, es⟩
      | some ⟨.error e, d, es⟩ => some ⟨.error e, d, es⟩ := by
  rw [filter, parse_here_bind, parse_bind]
  rcases p.parse c with _ | ⟨_ | a, d, es⟩
  · rfl
  · rfl
  · cases h : keep a <;> simp [h]

end Backtrack.Parser
