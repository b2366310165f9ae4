import Tabletop.Command.Grammar
import Tabletop.Log.Record
import Tabletop.Robot
import Tabletop.Source

/-!
# Simulations

A simulation drives one robot by lines of text. A blank line is counted and nothing else; a
malformed line is noted with its number; a command is given to the robot. Nothing that a line holds
stops a simulation, only a source that fails does, and what was done before stands.

A report is handed to the output, and the line that asked for it is answered with it too. Each line
leaves at most one record in the log: that it is malformed, or that its command was refused.

`run_eq` says that a run, which asks a source for one line after the other, does what the lines do
that the source gives to its end or to its first failure.
-/

set_option autoImplicit false

namespace Tabletop

/-- A malformed line and its number, counted from 1. -/
structure Diagnostic where
  lineNumber : Nat
  line : String
  reason : Reason
  deriving DecidableEq, Repr

/-- A malformed line noted at its number. -/
def Malformed.at (malformed : Malformed) (lineNumber : Nat) : Diagnostic where
  lineNumber := lineNumber
  line := malformed.line
  reason := malformed.reason

/-- A diagnostic as a record. -/
def Diagnostic.toValue (diagnostic : Diagnostic) : Value :=
  .record
    [("line_no", .int diagnostic.lineNumber),
      ("line", .text diagnostic.line),
      ("reason", .text diagnostic.reason.text)]

/-- What the log says about a malformed line. -/
def Malformed.record (malformed : Malformed) (lineNumber : Nat) : Log.Record :=
  Log.debug Log.simulationLogger
    (malformed.message ++ " (line " ++ toString lineNumber ++ ")")

/-- What the log says about a command that was refused. -/
def Command.refusal (command : Command) : Log.Record :=
  Log.debug Log.dispatchLogger
    ("Ignored " ++ command.kind ++
      (if command = .report then ": robot not placed" else ""))

/-- What the log says about a command, given the response to it. -/
def Command.record? (command : Command) (response : Response) : Option Log.Record :=
  if response.isRefused then some command.refusal else none

/-- The figures of a simulation. -/
structure Summary where
  lines : Nat := 0
  blank : Nat := 0
  applied : Nat := 0
  malformed : Nat := 0
  reports : Nat := 0
  deriving DecidableEq, Repr

/-- The figures as a record. -/
def Summary.toFields (summary : Summary) : Fields :=
  [("lines", .int summary.lines),
    ("blank", .int summary.blank),
    ("applied", .int summary.applied),
    ("malformed", .int summary.malformed),
    ("reports", .int summary.reports)]

/-- A robot that is driven by lines, and what was found in the lines. -/
structure Simulation where
  robot : Robot
  mode : Mode
  summary : Summary := {}
  diagnostics : List Diagnostic := []
  deriving DecidableEq, Repr

/-- What one line does: the simulation after it, the report it is answered with, what was handed to
the output and the record that it left in the log. -/
structure Fed where
  after : Simulation
  report : Option String
  output : List String
  record : Option Log.Record
  deriving Repr

/-- What several lines do: the simulation after them, the answers to them, the output and the log,
in order. -/
structure Trail where
  after : Simulation
  answers : List (Option String)
  output : List String
  log : List Log.Record
  deriving Repr

/-- What lines do that come behind another. -/
def Trail.behind (fed : Fed) (trail : Trail) : Trail where
  after := trail.after
  answers := fed.report :: trail.answers
  output := fed.output ++ trail.output
  log := fed.record.toList ++ trail.log

/-- What a run over a source does: what its lines do, the failure that ended it if one did, and the
source after it. -/
structure Run where
  trail : Trail
  failure : Option ReadFailure
  source : Source
  deriving Repr

namespace Simulation

/-- A simulation before its first line. -/
def new (board : Board) (mode : Mode) : Simulation where
  robot := Robot.new board
  mode := mode

/-- The simulation after a blank line. -/
def countBlank (simulation : Simulation) : Simulation :=
  let summary := simulation.summary
  { simulation with
    summary := { summary with lines := summary.lines + 1, blank := summary.blank + 1 } }

/-- The simulation after a malformed line. -/
def countMalformed (simulation : Simulation) (malformed : Malformed) : Simulation :=
  let summary := simulation.summary
  { simulation with
    summary := { summary with lines := summary.lines + 1, malformed := summary.malformed + 1 }
    diagnostics := simulation.diagnostics ++ [malformed.at (summary.lines + 1)] }

/-- The simulation after a command, and the response to it. -/
def countCommand (simulation : Simulation) (command : Command) : Simulation × Response :=
  let summary := simulation.summary
  let (robot, response) := simulation.robot.obey command
  let reports := if response.report?.isSome then summary.reports + 1 else summary.reports
  ({ simulation with
      robot
      summary :=
        { summary with lines := summary.lines + 1, applied := summary.applied + 1, reports } },
    response)

/-- What a line does. -/
def feed (simulation : Simulation) (line : String) : Fed :=
  if isBlankLine line then ⟨simulation.countBlank, none, [], none⟩
  else
    match parse simulation.mode line with
    | .error malformed =>
      ⟨simulation.countMalformed malformed, none, [],
        some (malformed.record (simulation.summary.lines + 1))⟩
    | .ok command =>
      let (after, response) := simulation.countCommand command
      ⟨after, response.report?, response.output, command.record? response⟩

/-- What the lines of a list do, one after the other. -/
def feedAll : Simulation → List String → Trail
  | simulation, [] => ⟨simulation, [], [], []⟩
  | simulation, line :: lines =>
    let fed := simulation.feed line
    .behind fed (feedAll fed.after lines)

/-- What the lines of a source do, each asked for when the one before it is done with, up to the end
of the source or its first failure. The source is closed either way. -/
def run (simulation : Simulation) (source : Source) : Run :=
  match _h : source.next with
  | (.ok (some line), after) =>
    let fed := simulation.feed line
    let rest := run fed.after after
    { rest with trail := .behind fed rest.trail }
  | (.ok none, after) => ⟨⟨simulation, [], [], []⟩, none, after.close⟩
  | (.error failure, after) => ⟨⟨simulation, [], [], []⟩, some failure, after.close⟩
termination_by source.supply.size
decreasing_by exact Source.size_next_lt _h

/-- A run does what the lines do that its source gives, and leaves the source read to its end and
closed. -/
theorem run_eq (simulation : Simulation) (source : Source) :
    simulation.run source =
      ⟨simulation.feedAll source.readAll.lines, source.readAll.failure, source.exhausted⟩ := by
  fun_induction run simulation source with
  | case1 simulation source line after hnext fed rest ih =>
    rw [Source.readAll_eq source, Source.exhausted_eq source, hnext]
    simp only [rest, ih, feedAll, fed]
  | case2 simulation source after hnext =>
    rw [Source.readAll_eq source, Source.exhausted_eq source, hnext]
    rfl
  | case3 simulation source failure after hnext =>
    rw [Source.readAll_eq source, Source.exhausted_eq source, hnext]
    rfl

theorem feedAll_append (simulation : Simulation) (front back : List String) :
    simulation.feedAll (front ++ back) =
      let first := simulation.feedAll front
      let second := first.after.feedAll back
      ⟨second.after, first.answers ++ second.answers, first.output ++ second.output,
        first.log ++ second.log⟩ := by
  induction front generalizing simulation with
  | nil => rfl
  | cons line front ih => simp [feedAll, Trail.behind, ih]

end Simulation

end Tabletop
