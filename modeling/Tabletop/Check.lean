import Tabletop.Result
import Tabletop.Simulation

/-!
# Checks

A check reads the lines of a script without driving a robot. It counts them, notes the malformed
ones, and warns of a script that never places the robot, since all of it would be refused.

`countFrom_eq` says that a check, which asks a source for one line after the other, counts the lines
that the source gives to its end or to its first failure.
-/

set_option autoImplicit false

namespace Tabletop

/-- What has been found in the lines so far. -/
structure Tally where
  count : Nat := 0
  blank : Nat := 0
  valid : Nat := 0
  places : Nat := 0
  malformed : List Diagnostic := []
  deriving DecidableEq, Repr

/-- What has been found in the lines of a source: the tally, the log, the failure that ended the
reading if one did, and the source after it. -/
structure Counted where
  tally : Tally
  log : List Log.Record
  failure : Option ReadFailure
  source : Source
  deriving Repr

/-- What a check of a source does: the result or the failure to read, the log, and the source after
it. -/
structure Checked where
  result : Except ReadFailure Result
  log : List Log.Record
  source : Source
  deriving Repr

namespace Check

/-- The name of the operation. -/
def op : String := "check"

/-- The warning about a script that never places the robot. -/
def noPlaceWarning : String := "No PLACE command: every command would be ignored"

/-- The tally after one more line, and the record that the line leaves in the log. -/
def countLine (mode : Mode) (tally : Tally) (line : String) : Tally × Option Log.Record :=
  let count := tally.count + 1
  if isBlankLine line then ({ tally with count, blank := tally.blank + 1 }, none)
  else
    match parse mode line with
    | .error malformed =>
      ({ tally with count, malformed := tally.malformed ++ [malformed.at count] },
        some (malformed.record count))
    | .ok command =>
      let places := if command.isPlace then tally.places + 1 else tally.places
      ({ tally with count, valid := tally.valid + 1, places }, none)

/-- The tally after some lines, and the records that they leave in the log. -/
def countLines (mode : Mode) : Tally → List String → Tally × List Log.Record
  | tally, [] => (tally, [])
  | tally, line :: lines =>
    let (next, record) := countLine mode tally line
    let (last, log) := countLines mode next lines
    (last, record.toList ++ log)

/-- The tally after the lines of a source, each asked for when the one before it is done with, up to
the end of the source or its first failure. The source is closed either way. -/
def countFrom (mode : Mode) (tally : Tally) (source : Source) : Counted :=
  match _h : source.next with
  | (.ok (some line), after) =>
    let (next, record) := countLine mode tally line
    let counted := countFrom mode next after
    { counted with log := record.toList ++ counted.log }
  | (.ok none, after) => ⟨tally, [], none, after.close⟩
  | (.error failure, after) => ⟨tally, [], some failure, after.close⟩
termination_by source.supply.size
decreasing_by exact Source.size_next_lt _h

/-- What is counted of a source are the lines that it gives, and it is left read to its end and
closed. -/
theorem countFrom_eq (mode : Mode) (tally : Tally) (source : Source) :
    countFrom mode tally source =
      let counted := countLines mode tally source.readAll.lines
      ⟨counted.1, counted.2, source.readAll.failure, source.exhausted⟩ := by
  fun_induction countFrom mode tally source with
  | case1 tally source line after hnext next record hline counted ih =>
    rw [Source.readAll_eq source, Source.exhausted_eq source, hnext]
    simp only [counted, ih, countLines, hline]
  | case2 tally source after hnext =>
    rw [Source.readAll_eq source, Source.exhausted_eq source, hnext]
    rfl
  | case3 tally source failure after hnext =>
    rw [Source.readAll_eq source, Source.exhausted_eq source, hnext]
    rfl

/-- The malformed lines as a list of records. -/
def malformedValue (tally : Tally) : Value :=
  .list (tally.malformed.map Diagnostic.toValue)

/-- The figures as a record. -/
def figures (tally : Tally) : Fields :=
  [("count", .int tally.count),
    ("valid", .int tally.valid),
    ("blank", .int tally.blank),
    ("malformed", malformedValue tally)]

/-- What the log says about a check. -/
def summaryRecord (tally : Tally) : Log.Record :=
  Log.debug Log.checkLogger
    ("Checked " ++ toString tally.count ++ " lines: " ++ toString tally.valid ++ " valid, " ++
      toString tally.malformed.length ++ " malformed")

/-- The result of a check. -/
def result (mode : Mode) (tally : Tally) : Result :=
  let context : Option Fields := some [("lenient", .bool mode.isLenient)]
  if tally.malformed.isEmpty then
    { ok := true
      op := op
      data := figures tally
      warnings := if tally.valid ≠ 0 ∧ tally.places = 0 then [noPlaceWarning] else []
      context := context }
  else
    Result.failure op
      { code := "MALFORMED_COMMANDS"
        message := toString tally.malformed.length ++ " malformed line(s)"
        detail := [("malformed", malformedValue tally)] }
      (figures tally) context

/-- A check of the lines of a source, up to its end or its first failure. -/
def run (mode : Mode) (source : Source) : Checked :=
  let counted := countFrom mode {} source
  match counted.failure with
  | some failure => ⟨.error failure, counted.log, counted.source⟩
  | none =>
    ⟨.ok (result mode counted.tally), counted.log ++ [summaryRecord counted.tally], counted.source⟩

/-- A check tells what is found in the lines that its source gives. -/
theorem run_eq (mode : Mode) (source : Source) :
    run mode source =
      let (tally, log) := countLines mode {} source.readAll.lines
      match source.readAll.failure with
      | some failure => ⟨.error failure, log, source.exhausted⟩
      | none => ⟨.ok (result mode tally), log ++ [summaryRecord tally], source.exhausted⟩ := by
  rw [run, countFrom_eq]

end Check

end Tabletop
