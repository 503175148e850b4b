import Backtrack.Person.Report
import Backtrack.Proofs.Parser.Lexemes

/-!
# The records that the command accepts

A record is read in five stages, and each of them is a lexeme.  So which texts are records, and
at which stage any other text fails, can be read off the list of stages, however the parser nests
them (`Person.reads_stages`).  The command ends with a report exactly if the text starts with a
record and, when it is strict, nothing comes after it (`Person.Command.run_accepts_records`).
Nothing is assumed of the reader of its arguments but that it gives the record and the strictness.
-/

namespace Backtrack

namespace Lexeme

theorem rest?_failure (l : Lexeme) (t : Text) : (l.failure t).rest? = some t := by
  cases l <;> rfl

/-- A lexeme that does not match is its own likely cause. -/
theorem likely_failure (l : Lexeme) (t : Text) : (l.failure t).likely = l.failure t := by
  cases l <;> rfl

end Lexeme

namespace Person

/-! ## Records -/

/-- The text is a record of the name and of the digits of the age, followed by the rest. -/
structure IsRecord (input name digits rest : Text) : Prop where
  text_eq : input = "name: ".toList ++ name ++ ", age: ".toList ++ digits ++ rest
  name_ne_nil : name ≠ []
  isAlphabetic : ∀ x ∈ name, Text.isAlphabetic x = true
  representable : Numeral.Representable digits
  /-- The digits do not go on in the rest. -/
  rest_stops : ∀ x, rest.head? = some x → Text.isNumeric x = false

/-- What is asked for in a record, in order. -/
def stages : List Lexeme :=
  [.literal "name: ".toList, .run Text.isAlphabetic "expected a name".toList,
    .literal ", ".toList, .literal "age: ".toList, .number]

variable {input name digits rest : Text} {runs : List Text}

/-- The comma after the name is no letter, so the name ends there. -/
theorem matchAll_stages :
    Lexeme.MatchAll stages input runs rest ↔ ∃ name digits, IsRecord input name digits rest ∧
      runs = ["name: ".toList, name, ", ".toList, "age: ".toList, digits] := by
  constructor
  · intro h
    obtain ⟨_, _, _, rfl, rfl, hlabel, h⟩ := h.exists_cons
    obtain ⟨name, _, _, rfl, rfl, hname, h⟩ := h.exists_cons
    obtain ⟨_, _, _, rfl, rfl, hcomma, h⟩ := h.exists_cons
    obtain ⟨_, _, _, rfl, rfl, hlabel', h⟩ := h.exists_cons
    obtain ⟨digits, _, _, rfl, rfl, hdigits, h⟩ := h.exists_cons
    cases h
    obtain ⟨-, rfl⟩ := Lexeme.matches_literal.mp hlabel
    obtain ⟨-, rfl⟩ := Lexeme.matches_literal.mp hcomma
    obtain ⟨-, rfl⟩ := Lexeme.matches_literal.mp hlabel'
    obtain ⟨hne, hletters, -⟩ := Lexeme.matches_run_append.mp hname
    obtain ⟨hnumber, hrest⟩ := Lexeme.matches_number_append.mp hdigits
    exact ⟨name, digits, ⟨by simp, hne, hletters, hnumber, hrest⟩, rfl⟩
  · rintro ⟨name, digits, h, rfl⟩
    have htext : input = "name: ".toList ++ (name ++ (", ".toList ++ ("age: ".toList ++
        (digits ++ rest)))) := by
      rw [h.text_eq]
      simp
    have hcomma : ∀ x, (", ".toList ++ ("age: ".toList ++ (digits ++ rest))).head? = some x →
        Text.isAlphabetic x = false := by
      rintro x ⟨⟩
      decide
    rw [htext]
    exact .cons (.literal (List.prefix_append _ _))
      (.cons (Lexeme.matches_run_append.mpr ⟨h.name_ne_nil, h.isAlphabetic, hcomma⟩)
        (.cons (.literal (List.prefix_append _ _)) (.cons (.literal (List.prefix_append _ _))
          (.cons (Lexeme.matches_number_append.mpr ⟨h.representable, h.rest_stops⟩) .nil))))

/-- A text is a record in one way only. -/
theorem IsRecord.unique {name' digits' rest' : Text} (h : IsRecord input name digits rest)
    (h' : IsRecord input name' digits' rest') :
    name = name' ∧ digits = digits' ∧ rest = rest' := by
  obtain ⟨hruns, hrest⟩ := (matchAll_stages.mpr ⟨_, _, h, rfl⟩).unique
    (matchAll_stages.mpr ⟨_, _, h', rfl⟩)
  simp only [List.cons.injEq, and_true, true_and] at hruns
  exact ⟨hruns.1, hruns.2, hrest⟩

/-- The person of a record. -/
def ofRecord (name digits : Text) : Person :=
  ⟨name, Int64.ofNat (Nat.ofDigitChars 10 digits 0)⟩

theorem toInt_age_ofRecord (name : Text) (h : Numeral.Representable digits) :
    (ofRecord name digits).age.toInt = Nat.ofDigitChars 10 digits 0 :=
  h.toInt_ofNat

/-! ## The parser -/

theorem reads_nameField :
    nameField.Reads [.literal "name: ".toList, .run Text.isAlphabetic "expected a name".toList]
      fun runs ↦ (runs.drop 1).headD [] :=
  ((Parser.reads_literal _).zip (Parser.reads_run _ _)).map Prod.snd

theorem reads_ageField :
    ageField.Reads [.literal "age: ".toList, .number]
      fun runs ↦ Int64.ofNat (Nat.ofDigitChars 10 ((runs.drop 1).headD []) 0) :=
  ((Parser.reads_literal _).zip Parser.reads_integer).map Prod.snd

theorem reads_stages :
    parser.Reads stages fun runs ↦
      ofRecord (((runs.take 2).drop 1).headD []) ((((runs.drop 2).drop 1).drop 1).headD []) :=
  (reads_nameField.zip ((Parser.reads_literal ", ".toList).zip reads_ageField)).map
    fun v ↦ Person.mk v.1 v.2.2

theorem run_parser_eq_ok (hinput : input.Addressable) {p : Person} :
    (parser.run input).map Reply.outcome = some (.ok (p, rest)) ↔
      ∃ digits, IsRecord input p.name digits rest ∧
        p.age.toInt = Nat.ofDigitChars 10 digits 0 := by
  rw [reads_stages.run_eq_ok hinput]
  constructor
  · rintro ⟨runs, hruns, rfl⟩
    obtain ⟨name, digits, h, rfl⟩ := matchAll_stages.mp hruns
    exact ⟨digits, h, toInt_age_ofRecord name h.representable⟩
  · rintro ⟨digits, h, hage⟩
    refine ⟨_, matchAll_stages.mpr ⟨_, _, h, rfl⟩, ?_⟩
    obtain ⟨name, age⟩ := p
    have hsame : age = (ofRecord name digits).age := by
      rw [← Int64.toInt_inj, toInt_age_ofRecord name h.representable]
      exact hage
    rw [hsame]
    rfl

/-! ## The command -/

namespace Command

section

variable {record : Text} {strict : Bool}

/-! ### Outcomes -/

theorem reportOf_of_age {p : Person} {n : Nat} (h : p.age.toInt = n) (rest : Text) :
    reportOf p rest =
      "name: ".toList ++ p.name ++ "\nage: ".toList ++ Numeral.decimal n ++ ['\n'] ++
        if rest = [] then [] else "rest: ".toList ++ rest.quoted ++ ['\n'] := by
  unfold reportOf
  rw [h, Numeral.signed_natCast]
  cases rest <;> rfl

/-- A person is reported, with what comes after the record unless the command is strict. -/
theorem outcomeOf_complete {p : Person} (h : strict = false ∨ rest = []) :
    outcomeOf strict (.ok (p, rest)) = .report (reportOf p rest) := by
  rcases h with rfl | rfl
  · rfl
  · cases strict <;> rfl

/-- A strict command refuses a record with something after it. -/
theorem outcomeOf_left {p : Person} (h : rest ≠ []) :
    outcomeOf true (.ok (p, rest)) =
      .error ("unexpected trailing input ".toList ++ rest.quoted) := by
  cases rest with
  | nil => exact absurd rfl h
  | cons x rest => rfl

/-- The failure of a lexeme is reported as it is. -/
theorem outcomeOf_refused {e : Failure} (h : Lexeme.FirstRefuses stages record e) :
    outcomeOf strict (.error e) = .error e.message := by
  obtain ⟨_, stage, _, _, left, -, -, -, rfl⟩ := Lexeme.firstRefuses_iff.mp h
  rw [outcomeOf, stage.likely_failure]

/-! ### What an outcome tells -/

/-- What the outcome says of the text, and what it shows. -/
structure Tells (strict : Bool) (input : Text) (outcome : Outcome) : Prop where
  /-- The exit code tells whether the text is a record that is accepted. -/
  exitCode_eq_zero : outcome.exitCode = 0 ↔ ∃ name digits rest,
    IsRecord input name digits rest ∧ (strict = false ∨ rest = [])
  exitCode_ne_zero : outcome.exitCode ≠ 0 → outcome.exitCode = 1 ∧ outcome.output = []
  /-- What is printed of a record that is accepted. -/
  output : ∀ name digits rest, IsRecord input name digits rest → outcome.exitCode = 0 →
    outcome.errorOutput = [] ∧
      outcome.output = "name: ".toList ++ name ++ "\nage: ".toList ++
        Numeral.decimal (Nat.ofDigitChars 10 digits 0) ++ ['\n'] ++
          if rest = [] then [] else "rest: ".toList ++ rest.quoted ++ ['\n']
  /-- A record that is not accepted is refused for what comes after it. -/
  left : ∀ name digits rest, IsRecord input name digits rest → outcome.exitCode ≠ 0 →
    outcome = .error ("unexpected trailing input ".toList ++ rest.quoted) ∧
      outcome.errorOutput = "Error: ".toList ++
        Text.quoted ("unexpected trailing input ".toList ++ rest.quoted) ++ ['\n']
  /-- Any other text is refused for the first stage that does not match what the stages before
  it leave, and that is the failure of the parser. -/
  refused : (∀ name digits rest, ¬ IsRecord input name digits rest) →
    ∃ before stage after runs left, stages = before ++ stage :: after ∧
      Lexeme.MatchAll before input runs left ∧ (∀ r, ¬ stage.Matches left r) ∧
      (parser.run input).map Reply.outcome = some (.error (stage.failure left)) ∧
      (stage.failure left).rest? = some left ∧
      outcome = .error (stage.failure left).message ∧
      outcome.errorOutput = "Error: ".toList ++ (stage.failure left).message.quoted ++ ['\n']

theorem tells_complete (h : IsRecord record name digits rest)
    (hcomplete : strict = false ∨ rest = []) :
    Tells strict record (.report (reportOf (ofRecord name digits) rest)) where
  exitCode_eq_zero := ⟨fun _ ↦ ⟨name, digits, rest, h, hcomplete⟩, fun _ ↦ rfl⟩
  exitCode_ne_zero hcode := absurd rfl hcode
  output _ _ _ h' _ := by
    obtain ⟨rfl, rfl, rfl⟩ := h.unique h'
    exact ⟨rfl, reportOf_of_age (toInt_age_ofRecord name h.representable) rest⟩
  left _ _ _ _ hcode := absurd rfl hcode
  refused hno := absurd h (hno name digits rest)

theorem tells_left (h : IsRecord record name digits rest) (hleft : rest ≠ []) :
    Tells true record (.error ("unexpected trailing input ".toList ++ rest.quoted)) where
  exitCode_eq_zero := by
    refine ⟨fun hcode ↦ absurd hcode Nat.one_ne_zero, ?_⟩
    rintro ⟨_, _, _, h', hstrict | hnil⟩
    · cases hstrict
    · obtain ⟨-, -, rfl⟩ := h.unique h'
      exact absurd hnil hleft
  exitCode_ne_zero _ := ⟨rfl, rfl⟩
  output _ _ _ _ hcode := absurd hcode Nat.one_ne_zero
  left _ _ _ h' _ := by
    obtain ⟨-, -, rfl⟩ := h.unique h'
    exact ⟨rfl, rfl⟩
  refused hno := absurd h (hno name digits rest)

theorem tells_refused {e : Failure} (hsize : record.Addressable)
    (h : Lexeme.FirstRefuses stages record e) : Tells strict record (.error e.message) := by
  have hno : ∀ name digits rest, ¬ IsRecord record name digits rest := fun _ _ _ hrecord ↦
    (matchAll_stages.mpr ⟨_, _, hrecord, rfl⟩).not_firstRefuses h
  constructor
  case exitCode_eq_zero =>
    refine ⟨fun hcode ↦ absurd hcode Nat.one_ne_zero, ?_⟩
    rintro ⟨_, _, _, hrecord, -⟩
    exact absurd hrecord (hno _ _ _)
  case exitCode_ne_zero => exact fun _ ↦ ⟨rfl, rfl⟩
  case output => exact fun _ _ _ hrecord ↦ absurd hrecord (hno _ _ _)
  case left => exact fun _ _ _ hrecord ↦ absurd hrecord (hno _ _ _)
  case refused =>
    intro _
    have hparsed := (reads_stages.run_eq_error hsize).mpr h
    obtain ⟨before, stage, after, runs, left, hstages, hbefore, hstage, rfl⟩ :=
      Lexeme.firstRefuses_iff.mp h
    exact ⟨before, stage, after, runs, left, hstages, hbefore, hstage, hparsed,
      stage.rest?_failure left, rfl, rfl⟩

/-! ### Runs -/

theorem parseRecord_eq_some {result : Except Failure (Person × Text)}
    (h : (parser.run record).map Reply.outcome = some result) :
    parseRecord strict record = some (outcomeOf strict result) := by
  obtain ⟨r, hr, rfl⟩ := Option.map_eq_some_iff.mp h
  rw [parseRecord, hr]
  rfl

/-- The command comes to an end with every record, and the outcome tells the truth. -/
theorem exists_tells (strict : Bool) (hsize : record.Addressable) :
    ∃ outcome, parseRecord strict record = some outcome ∧ Tells strict record outcome := by
  rcases Lexeme.matchAll_or_firstRefuses stages record with ⟨runs, rest, h⟩ | ⟨e, h⟩
  · obtain ⟨name, digits, hrecord, -⟩ := matchAll_stages.mp h
    have hparsed := (run_parser_eq_ok hsize).mpr
      ⟨digits, hrecord, toInt_age_ofRecord name hrecord.representable⟩
    refine ⟨_, parseRecord_eq_some hparsed, ?_⟩
    by_cases hcomplete : strict = false ∨ rest = []
    · rw [outcomeOf_complete hcomplete]
      exact tells_complete hrecord hcomplete
    · obtain ⟨rfl, hleft⟩ : strict = true ∧ rest ≠ [] := by simpa using hcomplete
      rw [outcomeOf_left hleft]
      exact tells_left hrecord hleft
  · refine ⟨_, parseRecord_eq_some ((reads_stages.run_eq_error hsize).mpr h), ?_⟩
    rw [outcomeOf_refused h]
    exact tells_refused hsize h

theorem runWith_eq {read : Reader} {args : List String} {o : Options} (h : read args = .ok o) :
    runWith read args = parseRecord o.strict o.record.toList := by
  rw [runWith, h]

end

/-- Take any record and strictness.  Parsing the text succeeds exactly if it is a record and a
rest, which it is in one way only, and gives the name and the age of the record.  With any reader
of arguments that gives the record and the strictness, the command ends in the same way.  It ends
with a report exactly if, moreover, it is not strict or nothing is left, and then it prints the
name, the age, and what is left, if anything is.  Otherwise it ends with an error and prints only
that: with a record, what is left; without one, the message of the first stage that does not match
what the stages before it leave. -/
theorem run_accepts_records (record : String) (strict : Bool)
    (hsize : Text.Addressable record.toList) :
    (∀ p rest, (parser.run record.toList).map Reply.outcome = some (.ok (p, rest)) ↔
      ∃ digits, IsRecord record.toList p.name digits rest ∧
        p.age.toInt = Nat.ofDigitChars 10 digits 0) ∧
    (∀ name digits rest name' digits' rest', IsRecord record.toList name digits rest →
      IsRecord record.toList name' digits' rest' →
        name = name' ∧ digits = digits' ∧ rest = rest') ∧
    ∃ outcome, parseRecord strict record.toList = some outcome ∧
      (∀ (read : Reader) args, read args = .ok ⟨record, strict⟩ →
        runWith read args = some outcome) ∧
      Tells strict record.toList outcome := by
  obtain ⟨outcome, hrun, htells⟩ := exists_tells strict hsize
  refine ⟨fun p rest ↦ run_parser_eq_ok hsize, fun _ _ _ _ _ _ h h' ↦ h.unique h', outcome, hrun,
    fun read args hread ↦ ?_, htells⟩
  rw [runWith_eq hread]
  exact hrun

/-- A name with a letter of two bytes, an age with zeros in front and something after it, without
and with strictness; and a name that ends before a digit. -/
theorem run_accepts_records_letters :
    let record : String := "name: Zoë, age: 007; next"
    let wrong : String := "name: Zoë3, age: 7"
    let read : Reader
      | ["--strict", arg] => .ok ⟨arg, true⟩
      | [arg] => .ok ⟨arg, false⟩
      | _ => .error .misuse
    Text.Addressable record.toList ∧ Text.Addressable wrong.toList ∧
      IsRecord record.toList "Zoë".toList "007".toList "; next".toList ∧
      (∃ outcome, runWith read [record] = some outcome ∧ outcome.exitCode = 0 ∧
        outcome.output = "name: Zoë\nage: 7\nrest: \"; next\"\n".toList) ∧
      (∃ outcome, runWith read ["--strict", record] = some outcome ∧ outcome.exitCode = 1 ∧
        outcome.errorOutput = "Error: \"unexpected trailing input \\\"; next\\\"\"\n".toList) ∧
      ∃ outcome, runWith read [wrong] = some outcome ∧ outcome.exitCode = 1 ∧
        outcome.errorOutput =
          "Error: \"expected \\\", \\\", found \\\"3, age: 7\\\"\"\n".toList := by
  intro record wrong read
  have hsize : Text.Addressable record.toList := by decide
  have hsize' : Text.Addressable wrong.toList := by decide
  have hrecord : IsRecord record.toList "Zoë".toList "007".toList "; next".toList := by
    have hletters : "Zoë".toList.all Text.isAlphabetic = true := by decide
    have hdigits : "007".toList.all Text.isAsciiDigit = true := by decide
    refine ⟨by decide, by decide, List.all_eq_true.mp hletters,
      ⟨⟨by decide, List.all_eq_true.mp hdigits⟩, by decide⟩, ?_⟩
    rintro x ⟨⟩
    decide
  refine ⟨hsize, hsize', hrecord, ?_, ?_, ?_⟩
  · obtain ⟨-, -, outcome, -, hrun, htells⟩ := run_accepts_records record false hsize
    have hzero := htells.exitCode_eq_zero.mpr ⟨_, _, _, hrecord, .inl rfl⟩
    exact ⟨outcome, hrun read [record] rfl, hzero,
      (htells.output _ _ _ hrecord hzero).2.trans (by decide)⟩
  · obtain ⟨-, -, outcome, -, hrun, htells⟩ := run_accepts_records record true hsize
    have hnot : outcome.exitCode ≠ 0 := by
      intro hzero
      obtain ⟨_, _, _, hrecord', hstrict | hnil⟩ := htells.exitCode_eq_zero.mp hzero
      · cases hstrict
      · obtain ⟨-, -, rfl⟩ := hrecord.unique hrecord'
        cases hnil
    exact ⟨outcome, hrun read ["--strict", record] rfl, (htells.exitCode_ne_zero hnot).1,
      (htells.left _ _ _ hrecord hnot).2.trans (by decide)⟩
  · obtain ⟨hok, -, outcome, -, hrun, htells⟩ := run_accepts_records wrong false hsize'
    have hparsed : (parser.run wrong.toList).map Reply.outcome =
        some (.error (.missingLiteral ", ".toList "3, age: 7".toList)) := by decide
    have hno : ∀ name digits rest, ¬ IsRecord wrong.toList name digits rest := by
      intro name digits rest h
      have hread := (hok (ofRecord name digits) rest).mpr
        ⟨digits, h, toInt_age_ofRecord name h.representable⟩
      cases hparsed.symm.trans hread
    have hnot : outcome.exitCode ≠ 0 := by
      intro hzero
      obtain ⟨_, _, _, h, -⟩ := htells.exitCode_eq_zero.mp hzero
      exact hno _ _ _ h
    obtain ⟨_, stage, _, _, left, -, -, -, hstage, -, -, hreported⟩ := htells.refused hno
    have hsame : stage.failure left = .missingLiteral ", ".toList "3, age: 7".toList := by
      simpa using hstage.symm.trans hparsed
    rw [hsame] at hreported
    exact ⟨outcome, hrun read [wrong] rfl, (htells.exitCode_ne_zero hnot).1,
      hreported.trans (by decide)⟩

end Command

end Person

end Backtrack
