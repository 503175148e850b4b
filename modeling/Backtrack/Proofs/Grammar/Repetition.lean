import Backtrack.Proofs.Grammar.Verbatim
import Backtrack.Proofs.Text.Run
import Backtrack.Value.Test

/-!
# Repetition by recursion

The longest run of accepted characters can be read at once, or one character after the other by
a rule that names itself.  Both give the same text and stop in the same place
(`Grammar.many_agrees_span`).  The rule stops where its test refuses a character or the text
ends; what it had read of that character is put back, because the second alternative of the
rule starts where the first one did.
-/

namespace Backtrack

namespace Value

/-- The characters of a text in nested pairs, with the unit at the end. -/
def listed : Text → Value
  | [] => .unit
  | x :: t => .tuple [.char x, listed t]

@[simp] theorem spelled_listed (t : Text) : (listed t).spelled = t := by
  induction t with
  | nil => rfl
  | cons x t ih => simp [listed, ih]

end Value

namespace Parser

/-- Reading a run at once gives the longest one, and consumes just that. -/
theorem succeeds_span_run {accepts : Char → Bool} {c d : Cursor} {run t : Text}
    (hc : c.WellFormed) (h : Text.IsLongestRun accepts c.rest run) :
    (span accepts).Succeeds c t d ↔ t = run ∧ c.Consumes run d := by
  rw [succeeds_span, Text.isLongestRun_iff.mp h, hc.consumes_iff h.starts]
  refine and_congr_right ?_
  rintro rfl
  rfl

end Parser

namespace Grammar

/-- An accepted character and then the rule, or nothing: a repetition, if the rule stands for
this grammar. -/
def many (accepts : Char → Bool) (reason : Text) (name : String) : Grammar :=
  .orElse (.zip (.filter .anyChar (Value.allChars accepts) reason) (.rule name)) (.always .unit)

variable {rules : Rules} {name : String} {accepts : Char → Bool} {reason : Text} {c d : Cursor}

/-- Where no character is left or the next one is refused, the repetition reads nothing. -/
theorem many_stops (h : ∀ x, c.peek = some x → accepts x = false) :
    (many accepts reason name).Succeeds rules c .unit c := by
  have hfails : ∃ e stop,
      ((Parser.anyChar.map Value.char).filter (Value.allChars accepts) reason).Fails c e stop := by
    cases hpeek : c.peek with
    | none =>
        have hchar : Parser.anyChar.Fails c .endOfInput c :=
          Parser.fails_anyChar.mpr ⟨hpeek, rfl, rfl⟩
        exact ⟨_, _, Parser.fails_filter.mpr (.inl (Parser.fails_map.mpr hchar))⟩
    | some x =>
        have hchar : (Parser.anyChar.map Value.char).Succeeds c (.char x) (c.advance x.utf8Size) :=
          Parser.succeeds_map.mpr ⟨x, Parser.succeeds_anyChar.mpr ⟨hpeek, rfl⟩, rfl⟩
        exact ⟨_, _, Parser.fails_filter.mpr (.inr ⟨⟨_, _, hchar, h x hpeek⟩, rfl, rfl⟩)⟩
  have hnothing : (Parser.always Value.unit).Succeeds c .unit c :=
    Parser.succeeds_always.mpr ⟨rfl, rfl⟩
  obtain ⟨e, stop, hfails⟩ := hfails
  refine ⟨0, Parser.succeeds_orElse.mpr (.inr ⟨⟨e, stop, ?_⟩, hnothing⟩)⟩
  exact Parser.fails_map.mpr (Parser.fails_zip.mpr (.inl hfails))

/-- An accepted character goes in front of what the repetition reads after it. -/
theorem many_continues {x : Char} {m : Cursor} {v : Value}
    (hrule : rules name = many accepts reason name) (hx : Parser.anyChar.Succeeds c x m)
    (hok : accepts x = true) (h : (many accepts reason name).Succeeds rules m v d) :
    (many accepts reason name).Succeeds rules c (.tuple [.char x, v]) d := by
  obtain ⟨depth, h⟩ := h
  -- The rule is unfolded once more than after the character.
  have hagain : ((Grammar.rule name).parser rules (depth + 1)).Succeeds m v d := by
    change ((rules name).parser rules depth).Succeeds m v d
    rwa [hrule]
  have hchar : ((Grammar.filter .anyChar (Value.allChars accepts) reason).parser rules
      (depth + 1)).Succeeds c (.char x) m :=
    Parser.succeeds_filter.mpr ⟨Parser.succeeds_map.mpr ⟨x, hx, rfl⟩, hok⟩
  refine ⟨depth + 1, Parser.succeeds_orElse.mpr (.inl ?_)⟩
  exact Parser.succeeds_map.mpr ⟨(.char x, v), Parser.succeeds_zip.mpr ⟨m, hchar, hagain⟩, rfl⟩

/-- The repetition reads accepted characters one after the other, up to one that is refused. -/
theorem many_reads {run rest : Text} (hrule : rules name = many accepts reason name)
    (hc : c.WellFormed) (hrest : c.rest = run ++ rest) (hrun : ∀ x ∈ run, accepts x = true)
    (hstop : ∀ x, rest.head? = some x → accepts x = false) :
    ∃ d, c.Consumes run d ∧
      (many accepts reason name).Succeeds rules c (Value.listed run) d := by
  induction run generalizing c with
  | nil =>
      refine ⟨c, Cursor.consumes_nil c, many_stops fun x hx ↦ hstop x ?_⟩
      rwa [Cursor.peek, hrest, List.nil_append] at hx
  | cons x run ih =>
      have hpeek : c.peek = some x := by
        rw [Cursor.peek, hrest]
        rfl
      have hx : Parser.anyChar.Succeeds c x (c.advance x.utf8Size) :=
        Parser.succeeds_anyChar.mpr ⟨hpeek, rfl⟩
      have hm := Parser.consumes_anyChar hc hx
      obtain ⟨hok, hrun⟩ := List.forall_mem_cons.mp hrun
      obtain ⟨d, hd, h⟩ :=
        ih (hm.wellFormed hc) (List.append_cancel_left (hm.rest.symm.trans hrest)) hrun
      exact ⟨d, hm.append hd, many_continues hrule hx hok h⟩

/-- At a well-formed cursor, reading a run at once and character by character both succeed,
consume the same text and stop at the same cursor.  That text is the longest run of accepted
characters; the next character is refused, so reading a run there gives the empty one. -/
theorem many_agrees_span (hrule : rules name = many accepts reason name) (hc : c.WellFormed) :
    ∃ run d, Text.IsLongestRun accepts c.rest run ∧ c.Consumes run d ∧
      (span accepts).Succeeds rules c (.str run) d ∧
      (many accepts reason name).Succeeds rules c (.listed run) d ∧
      (Value.listed run).spelled = run ∧
      (∀ x, d.peek = some x → accepts x = false) ∧
      (span accepts).Succeeds rules d (.str []) d := by
  have hrun := Text.isLongestRun_takeWhile accepts c.rest
  have hrest : c.rest = c.rest.takeWhile accepts ++ c.rest.dropWhile accepts :=
    List.takeWhile_append_dropWhile.symm
  obtain ⟨d, hd, h⟩ := many_reads hrule hc hrest hrun.accepted
    fun x hx ↦ Text.head?_dropWhile_refused hx
  have hspan : (Parser.span accepts).Succeeds c (c.rest.takeWhile accepts) d :=
    (Parser.succeeds_span_run hc hrun).mpr ⟨rfl, hd⟩
  have hnext : ∀ x, d.peek = some x → accepts x = false := by
    intro x hx
    rw [Cursor.peek, List.append_cancel_left (hd.rest.symm.trans hrest)] at hx
    exact Text.head?_dropWhile_refused hx
  have hempty : Text.IsLongestRun accepts ([] ++ d.rest) [] :=
    Text.isLongestRun_append (List.forall_mem_nil _) hnext
  have hagain : (Parser.span accepts).Succeeds d [] d :=
    (Parser.succeeds_span_run (hd.wellFormed hc) hempty).mpr ⟨rfl, Cursor.consumes_nil d⟩
  exact ⟨_, d, hrun, hd, ⟨0, Parser.succeeds_map.mpr ⟨_, hspan, rfl⟩⟩, h,
    Value.spelled_listed _, hnext, ⟨0, Parser.succeeds_map.mpr ⟨_, hagain, rfl⟩⟩⟩

/-- Characters of two, four and three bytes are read after a letter and up to the next one. -/
theorem many_agrees_span_symbols :
    let accepts : Char → Bool := fun x ↦ !Text.isAsciiAlphabetic x
    let repetition := many accepts ['n', 'o'] "symbols"
    let rules : Rules := fun _ ↦ repetition
    let text : Text := ['a', '×', '𝄞', '€', 'b', '×']
    let c : Cursor := ⟨text, 1⟩
    let d : Cursor := ⟨text, 10⟩
    rules "symbols" = repetition ∧ c.WellFormed ∧
      (span accepts).Succeeds rules c (.str ['×', '𝄞', '€']) d ∧
      repetition.Succeeds rules c (.listed ['×', '𝄞', '€']) d ∧ d.peek = some 'b' ∧
      (span accepts).Succeeds rules d (.str []) d := by
  intro accepts repetition rules text c d
  have hrule : rules "symbols" = repetition := rfl
  have hc : c.WellFormed := ⟨⟨['a'], text.tail, rfl, rfl⟩, by decide⟩
  obtain ⟨run, stop, hrun, hstop, hspan, hmany, -, -, hagain⟩ := many_agrees_span hrule hc
  obtain rfl : ['×', '𝄞', '€'] = run := Text.isLongestRun_iff.mp hrun
  obtain rfl : stop = d := Cursor.ext hstop.source hstop.position
  exact ⟨hrule, hc, hspan, hmany, rfl, hagain⟩

end Grammar

end Backtrack
