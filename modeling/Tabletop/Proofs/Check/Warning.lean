import Tabletop.Proofs.Check.Findings
import Tabletop.Proofs.Robot.Refusal

/-!
# Scripts that never place the robot

A check warns of a script without a fault that holds commands, but none that places the robot
(`warns_iff`). The warning says that every command would be ignored, and that is what a simulation
of the script does, on any board: a robot that has not been placed refuses all other commands and
stays as it is (`feedAll_of_unplaced`).
-/

set_option autoImplicit false

namespace Tabletop

/-- Lines of which none places the robot, where none is malformed. -/
structure NeverPlaces (mode : Mode) (lines : List String) : Prop where
  wellFormed : ∀ line ∈ lines,
    line.toList.all Text.isBlank = true ∨ ∃ command, parse mode line = .ok command
  noPlace : ∀ command ∈ commandsIn mode lines, command.isPlace = false

theorem neverPlaces_cons_iff {mode : Mode} {line : String} {lines : List String} :
    NeverPlaces mode (line :: lines) ↔ NeverPlaces mode [line] ∧ NeverPlaces mode lines := by
  constructor
  · rintro ⟨hwell, hplace⟩
    rw [commandsIn_cons, List.forall_mem_append] at hplace
    rw [List.forall_mem_cons] at hwell
    exact ⟨⟨List.forall_mem_singleton.2 hwell.1, hplace.1⟩, ⟨hwell.2, hplace.2⟩⟩
  · rintro ⟨⟨hwell, hplace⟩, hrest⟩
    refine ⟨List.forall_mem_cons.2 ⟨hwell line List.mem_cons_self, hrest.wellFormed⟩, ?_⟩
    rw [commandsIn_cons, List.forall_mem_append]
    exact ⟨hplace, hrest.noPlace⟩

theorem NeverPlaces.take {mode : Mode} {lines : List String} (h : NeverPlaces mode lines)
    (n : Nat) : NeverPlaces mode (lines.take n) where
  wellFormed line hmem := h.wellFormed line (List.mem_of_mem_take hmem)
  noPlace command hmem := by
    obtain ⟨line, hline, hparse⟩ := mem_commandsIn_iff.1 hmem
    exact h.noPlace command (mem_commandsIn_iff.2 ⟨line, List.mem_of_mem_take hline, hparse⟩)

namespace Simulation

/-- A line that does not place the robot does nothing with one that has not been placed. If it is a
command, its refusal goes to the log. -/
theorem feed_of_unplaced (simulation : Simulation) (hon : simulation.robot.onBoard = false)
    {line : String} (h : NeverPlaces simulation.mode [line]) :
    (simulation.feed line).after.robot = simulation.robot ∧ (simulation.feed line).report = none ∧
      (simulation.feed line).record.toList =
        (commandsIn simulation.mode [line]).map Command.refusal := by
  rcases simulation.feed_cases line with ⟨hblank, hfeed⟩ | ⟨malformed, hblank, hparse, hfeed⟩ |
    ⟨command, hparse, hfeed⟩
  · rw [hfeed, commandsIn_cons_of_error (parse_of_isBlankLine hblank)]
    exact ⟨rfl, rfl, rfl⟩
  · -- a malformed line is neither blank nor a command
    rcases h.wellFormed line List.mem_cons_self with hall | ⟨command, hok⟩
    · rw [isBlankLine_eq_all, hall] at hblank
      cases hblank
    · rw [hparse] at hok
      cases hok
  · have hplace : command.isPlace = false :=
      h.noPlace command (mem_commandsIn_iff.2 ⟨line, List.mem_cons_self, hparse⟩)
    have hrefuses : simulation.robot.Refuses command := .unplaced hon hplace
    have hobey := Robot.obey_of_refuses hrefuses
    have hrecord := Command.record?_of_refuses hrefuses
    rw [hfeed, commandsIn_cons_of_ok hparse, hrecord]
    refine ⟨?_, ?_, rfl⟩
    · simp only [countCommand, hobey]
    · rw [hobey]
      rfl

/-- Lines that never place the robot do nothing with one that has not been placed but to leave the
refusal of each command in the log. -/
theorem feedAll_of_unplaced (simulation : Simulation) (hon : simulation.robot.onBoard = false)
    {lines : List String} (h : NeverPlaces simulation.mode lines) :
    (simulation.feedAll lines).after.robot = simulation.robot ∧
      (simulation.feedAll lines).output = [] ∧
      (simulation.feedAll lines).log =
        (commandsIn simulation.mode lines).map Command.refusal := by
  -- each line leaves the robot unplaced, which is all that the next one needs
  induction lines generalizing simulation with
  | nil => exact ⟨rfl, rfl, rfl⟩
  | cons line lines ih =>
    obtain ⟨hfirst, hrest⟩ := neverPlaces_cons_iff.1 h
    obtain ⟨hrobot, hreport, hrecord⟩ := simulation.feed_of_unplaced hon hfirst
    have hmode := simulation.mode_feed line
    have hlater := ih (simulation.feed line).after
    rw [hrobot, hmode] at hlater
    obtain ⟨hafter, houtput, hlog⟩ := hlater hon hrest
    refine ⟨hafter, ?_, ?_⟩
    · simp only [feedAll, Trail.behind, output_feed, hreport, houtput, Option.toList_none,
        List.append_nil]
    · rw [feedAll, Trail.behind, commandsIn_cons, List.map_append, ← hrecord, ← hlog]

end Simulation

namespace Check

/-- A check of some lines comes to a result that carries the warning and is no failure. -/
def Warns (mode : Mode) (lines : List String) : Prop :=
  ∃ result, (run mode (Source.ofLines lines none)).result = .ok result ∧ result.ok = true ∧
    noPlaceWarning ∈ result.warnings

theorem warns_iff {mode : Mode} {lines : List String} :
    Warns mode lines ↔ NeverPlaces mode lines ∧ commandsIn mode lines ≠ [] := by
  have hmalformed := malformed_countLines mode lines
  have hwarned : noPlaceWarning ∈ (result mode (countLines mode {} lines).1).warnings ↔
      NeverPlaces mode lines ∧ commandsIn mode lines ≠ [] := by
    rw [mem_warnings_result_iff, hmalformed, notedAll_eq_nil_iff, valid_countLines,
      places_countLines, List.countP_eq_zero, ne_eq, List.length_eq_zero_iff]
    constructor
    · rintro ⟨hwell, hsome, hplaces⟩
      exact ⟨⟨hwell, fun command hmem => Bool.eq_false_iff.2 (hplaces command hmem)⟩, hsome⟩
    · rintro ⟨⟨hwell, hplaces⟩, hsome⟩
      exact ⟨hwell, hsome, fun command hmem => Bool.eq_false_iff.1 (hplaces command hmem)⟩
  constructor
  · rintro ⟨result, hresult, -, hmem⟩
    rw [run_ofLines] at hresult
    cases hresult
    exact hwarned.1 hmem
  · intro h
    have hnone := (mem_warnings_result_iff.1 (hwarned.2 h)).1
    refine ⟨_, run_ofLines mode lines, ?_, hwarned.2 h⟩
    rw [ok_result, hnone]
    rfl

end Check

/-- What the log says about a refusal starts with the word for ignoring. -/
theorem Command.ignored_prefix_refusal (command : Command) :
    "Ignored ".toList <+: command.refusal.message.toList := by
  simp [refusal, Log.debug, String.toList_append]

/-- A check ends well and warns that no command places the robot exactly if each line is blank or a
command, there is a command, and none is a placement. Then a simulation of the lines hands nothing
to the output, on any board, its robot is as new after each line, and its log holds one record for
each of the commands that the check has counted, which says that the command was ignored. -/
theorem check_warns_of_ignored (mode : Mode) (lines : List String) :
    (Check.Warns mode lines ↔
      (∀ line ∈ lines,
        line.toList.all Text.isBlank = true ∨ ∃ command, parse mode line = .ok command) ∧
        (∃ line ∈ lines, ∃ command, parse mode line = .ok command) ∧
        ∀ line ∈ lines, ∀ command, parse mode line = .ok command → command.isPlace = false) ∧
      (Check.Warns mode lines → ∀ board : Board,
        let simulation := Simulation.new board mode
        let run := simulation.run (Source.ofLines lines none)
        run.failure = none ∧ run.trail.output = [] ∧
          (∀ n, (simulation.feedAll (lines.take n)).after.robot = Robot.new board) ∧
          run.trail.log = (commandsIn mode lines).map Command.refusal ∧
          (∀ record ∈ run.trail.log, record.level = .debug ∧
            "Ignored ".toList <+: record.message.toList) ∧
          ∀ result, (Check.run mode (Source.ofLines lines none)).result = .ok result →
            result.data.get? "valid" = some (.int run.trail.log.length)) := by
  constructor
  · rw [Check.warns_iff]
    constructor
    · rintro ⟨⟨hwell, hplace⟩, hsome⟩
      obtain ⟨command, hcommand⟩ := List.exists_mem_of_ne_nil _ hsome
      obtain ⟨line, hline, hparse⟩ := mem_commandsIn_iff.1 hcommand
      refine ⟨hwell, ⟨line, hline, command, hparse⟩, ?_⟩
      intro other hother found hfound
      exact hplace found (mem_commandsIn_iff.2 ⟨other, hother, hfound⟩)
    · rintro ⟨hwell, ⟨line, hline, command, hparse⟩, hplace⟩
      refine ⟨⟨hwell, ?_⟩, List.ne_nil_of_mem (mem_commandsIn_iff.2 ⟨line, hline, hparse⟩)⟩
      intro found hfound
      obtain ⟨other, hother, hok⟩ := mem_commandsIn_iff.1 hfound
      exact hplace other hother found hok
  · intro hwarns board simulation run
    obtain ⟨hnever, -⟩ := Check.warns_iff.1 hwarns
    have hread := Source.readAll_ofLines lines
    have htrail : run.trail = simulation.feedAll lines := by
      simp only [run, Simulation.run_eq, hread]
    obtain ⟨-, houtput, hlog⟩ := simulation.feedAll_of_unplaced rfl hnever
    refine ⟨?_, ?_, ?_, ?_, ?_, ?_⟩
    · simp only [run, Simulation.run_eq, hread]
    · rw [htrail, houtput]
    · intro n
      exact (simulation.feedAll_of_unplaced rfl (hnever.take n)).1
    · rw [htrail, hlog]
      rfl
    · intro record hrecord
      rw [htrail, hlog] at hrecord
      obtain ⟨command, -, rfl⟩ := List.mem_map.1 hrecord
      exact ⟨rfl, command.ignored_prefix_refusal⟩
    · intro result hresult
      rw [Check.run_ofLines] at hresult
      cases hresult
      rw [Check.data_result, htrail, hlog, List.length_map]
      exact congrArg (fun valid : Nat => some (Value.int valid)) (Check.valid_countLines mode lines)

/-- A script of blank lines and commands that wants to know where the robot is, but never places
it. -/
theorem check_warns_of_ignored_lost :
    let lines := ["MOVE", " ", "report", "LEFT"]
    Check.Warns .strict lines ∧
      ((Simulation.new Board.standard .strict).run (Source.ofLines lines none)).trail.log =
        [.move, .report, .left].map Command.refusal := by
  intro lines
  have hwarns : Check.Warns .strict lines := by
    refine (check_warns_of_ignored .strict lines).1.2 ⟨?_, ⟨"MOVE", by decide, .move, rfl⟩, ?_⟩
    · intro line hline
      simp only [lines, List.mem_cons, List.not_mem_nil, or_false] at hline
      rcases hline with rfl | rfl | rfl | rfl
      · exact Or.inr ⟨.move, rfl⟩
      · exact Or.inl (by decide)
      · exact Or.inr ⟨.report, rfl⟩
      · exact Or.inr ⟨.left, rfl⟩
    · intro line hline command hparse
      have hcommand : command ∈ commandsIn .strict lines :=
        mem_commandsIn_iff.2 ⟨line, hline, hparse⟩
      have hread : commandsIn .strict lines = [.move, .report, .left] := rfl
      have hplaces : ∀ command ∈ commandsIn .strict lines, command.isPlace = false := by
        rw [hread]
        decide
      exact hplaces command hcommand
  obtain ⟨-, -, -, hlog, -⟩ := (check_warns_of_ignored .strict lines).2 hwarns Board.standard
  exact ⟨hwarns, hlog⟩

end Tabletop
