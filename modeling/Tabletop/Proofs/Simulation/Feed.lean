import Tabletop.Simulation

/-!
# What a line can do

`Simulation.feed_cases` says all that a line can do: it is blank, or malformed, or a command that
the robot is given. What it is answered with and what it hands to the output are the same text
(`output_feed`, `output_feedAll`). `feedAll_invariant` and `forall_mem_output_feedAll` carry what
each line keeps, and what each report has, to any number of lines.

What lines do to the robot, and what they report, does not depend on what was counted before:
simulations that are `Alike` stay so under the same lines and report the same (`Alike.feedAll`).
-/

set_option autoImplicit false

namespace Tabletop

/-- A blank line is read as no command, and nothing else is said about it. -/
theorem parse_of_isBlankLine {mode : Mode} {line : String} (h : isBlankLine line = true) :
    parse mode line = .error ⟨"", .empty⟩ := by
  have htrim : Text.trim line.toList = [] := List.isEmpty_iff.1 h
  simp only [parse, htrim]
  rfl

/-- A command stands on no blank line. -/
theorem isBlankLine_of_parse_eq_ok {mode : Mode} {line : String} {command : Command}
    (h : parse mode line = .ok command) : isBlankLine line = false := by
  cases hline : isBlankLine line with
  | false => rfl
  | true =>
    rw [parse_of_isBlankLine hline] at h
    cases h

namespace Simulation

theorem feed_of_isBlankLine (simulation : Simulation) {line : String}
    (h : isBlankLine line = true) :
    simulation.feed line = ⟨simulation.countBlank, none, [], none⟩ := by
  rw [feed, if_pos h]

theorem feed_of_malformed (simulation : Simulation) {line : String} {malformed : Malformed}
    (hblank : isBlankLine line = false) (h : parse simulation.mode line = .error malformed) :
    simulation.feed line =
      ⟨simulation.countMalformed malformed, none, [],
        some (malformed.record (simulation.summary.lines + 1))⟩ := by
  rw [feed, hblank, h]
  rfl

theorem feed_of_command (simulation : Simulation) {line : String} {command : Command}
    (h : parse simulation.mode line = .ok command) :
    simulation.feed line =
      ⟨(simulation.countCommand command).1, (simulation.robot.obey command).2.report?,
        (simulation.robot.obey command).2.output,
        command.record? (simulation.robot.obey command).2⟩ := by
  rw [feed, isBlankLine_of_parse_eq_ok h, h]
  rfl

/-- All that a line can do: it is blank, it is malformed, or it is a command. -/
theorem feed_cases (simulation : Simulation) (line : String) :
    (isBlankLine line = true ∧ simulation.feed line = ⟨simulation.countBlank, none, [], none⟩) ∨
      (∃ malformed, isBlankLine line = false ∧ parse simulation.mode line = .error malformed ∧
        simulation.feed line = ⟨simulation.countMalformed malformed, none, [],
          some (malformed.record (simulation.summary.lines + 1))⟩) ∨
      ∃ command, parse simulation.mode line = .ok command ∧
        simulation.feed line = ⟨(simulation.countCommand command).1,
          (simulation.robot.obey command).2.report?, (simulation.robot.obey command).2.output,
          command.record? (simulation.robot.obey command).2⟩ := by
  cases hblank : isBlankLine line with
  | true => exact Or.inl ⟨rfl, simulation.feed_of_isBlankLine hblank⟩
  | false =>
    cases h : parse simulation.mode line with
    | error malformed =>
      exact Or.inr (Or.inl ⟨malformed, rfl, rfl, simulation.feed_of_malformed hblank h⟩)
    | ok command => exact Or.inr (Or.inr ⟨command, rfl, simulation.feed_of_command h⟩)

/-- A line is answered with what it hands to the output, if it hands anything to it. -/
theorem output_feed (simulation : Simulation) (line : String) :
    (simulation.feed line).output = (simulation.feed line).report.toList := by
  rcases simulation.feed_cases line with ⟨-, h⟩ | ⟨malformed, -, -, h⟩ | ⟨command, -, h⟩
  · rw [h]
    rfl
  · rw [h]
    rfl
  · rw [h]
    exact (simulation.robot.obey command).2.output_eq

/-- What lines hand to the output is what they are answered with, but for the answers that are
none. -/
theorem output_feedAll (simulation : Simulation) (lines : List String) :
    (simulation.feedAll lines).output = (simulation.feedAll lines).answers.filterMap id := by
  induction lines generalizing simulation with
  | nil => rfl
  | cons line lines ih =>
    simp only [feedAll, Trail.behind, List.filterMap_cons, output_feed, ih]
    cases (simulation.feed line).report <;> rfl

theorem length_answers_feedAll (simulation : Simulation) (lines : List String) :
    (simulation.feedAll lines).answers.length = lines.length := by
  induction lines generalizing simulation with
  | nil => rfl
  | cons line lines ih => simp only [feedAll, Trail.behind, List.length_cons, ih]

/-- A line leaves the robot alone and brings no report, or gives the robot one command. -/
theorem robot_feed_cases (simulation : Simulation) (line : String) :
    ((simulation.feed line).after.robot = simulation.robot ∧
        (simulation.feed line).report = none) ∨
      ∃ command, (simulation.feed line).after.robot = (simulation.robot.obey command).1 ∧
        (simulation.feed line).report = (simulation.robot.obey command).2.report? := by
  rcases simulation.feed_cases line with ⟨-, h⟩ | ⟨malformed, -, -, h⟩ | ⟨command, -, h⟩
  · rw [h]
    exact Or.inl ⟨rfl, rfl⟩
  · rw [h]
    exact Or.inl ⟨rfl, rfl⟩
  · rw [h]
    exact Or.inr ⟨command, rfl, rfl⟩

/-- What every command keeps of a robot is kept by every line. -/
theorem robot_invariant_feed {P : Robot → Prop}
    (hobey : ∀ robot command, P robot → P (robot.obey command).1) (simulation : Simulation)
    (line : String) (h : P simulation.robot) : P (simulation.feed line).after.robot := by
  rcases simulation.robot_feed_cases line with ⟨hrobot, -⟩ | ⟨command, hrobot, -⟩
  · rw [hrobot]
    exact h
  · rw [hrobot]
    exact hobey simulation.robot command h

/-- A line leaves the mode of reading as it is. -/
theorem mode_feed (simulation : Simulation) (line : String) :
    (simulation.feed line).after.mode = simulation.mode := by
  rcases simulation.feed_cases line with ⟨-, h⟩ | ⟨malformed, -, -, h⟩ | ⟨command, -, h⟩
  · rw [h]
    rfl
  · rw [h]
    rfl
  · rw [h]
    rfl

/-- What every line keeps is kept by all of them. -/
theorem feedAll_invariant {P : Simulation → Prop}
    (hstep : ∀ simulation line, P simulation → P (simulation.feed line).after)
    {simulation : Simulation} (h : P simulation) (lines : List String) :
    P (simulation.feedAll lines).after := by
  induction lines generalizing simulation with
  | nil => exact h
  | cons line lines ih => exact ih (hstep simulation line h)

theorem mode_feedAll (simulation : Simulation) (lines : List String) :
    (simulation.feedAll lines).after.mode = simulation.mode :=
  feedAll_invariant (P := fun after => after.mode = simulation.mode)
    (fun before line h => (before.mode_feed line).trans h) rfl lines

/-- What the report of any line has, as long as the lines keep an invariant, all that is handed to
the output has. -/
theorem forall_mem_output_feedAll {P : Simulation → Prop} {Q : String → Prop}
    (hstep : ∀ simulation line, P simulation → P (simulation.feed line).after)
    (hreport : ∀ simulation line, P simulation →
      ∀ text ∈ (simulation.feed line).report, Q text)
    {simulation : Simulation} (h : P simulation) (lines : List String) :
    ∀ text ∈ (simulation.feedAll lines).output, Q text := by
  induction lines generalizing simulation with
  | nil => simp [feedAll]
  | cons line lines ih =>
    intro text htext
    simp only [feedAll, Trail.behind, output_feed, List.mem_append, Option.mem_toList] at htext
    rcases htext with hnow | hlater
    · exact hreport simulation line h text hnow
    · exact ih (hstep simulation line h) text hlater

/-! ## Simulations that differ in their figures -/

/-- Two simulations with the same robot and the same mode, whatever they have counted and noted. -/
structure Alike (first second : Simulation) : Prop where
  robot : first.robot = second.robot
  mode : first.mode = second.mode

section

variable {first second : Simulation} (h : Alike first second)
include h

theorem Alike.trans {third : Simulation} (h' : Alike second third) : Alike first third where
  robot := h.robot.trans h'.robot
  mode := h.mode.trans h'.mode

theorem Alike.robot_feed (line : String) :
    (first.feed line).after.robot = (second.feed line).after.robot ∧
      (first.feed line).report = (second.feed line).report := by
  rcases first.feed_cases line with ⟨hblank, hfeed⟩ | ⟨malformed, hblank, hparse, hfeed⟩ |
    ⟨command, hparse, hfeed⟩
  · rw [hfeed, second.feed_of_isBlankLine hblank]
    exact ⟨h.robot, rfl⟩
  · rw [h.mode] at hparse
    rw [hfeed, second.feed_of_malformed hblank hparse]
    exact ⟨h.robot, rfl⟩
  · rw [h.mode] at hparse
    rw [hfeed, second.feed_of_command hparse]
    simp only [countCommand, h.robot, and_self]

theorem Alike.feed (line : String) :
    Alike (first.feed line).after (second.feed line).after where
  robot := (h.robot_feed line).1
  mode := by rw [mode_feed, mode_feed, h.mode]

end

/-- The same lines hand the same to the output and leave the same robot. -/
theorem Alike.feedAll {first second : Simulation} (h : Alike first second) (lines : List String) :
    (first.feedAll lines).output = (second.feedAll lines).output ∧
      Alike (first.feedAll lines).after (second.feedAll lines).after := by
  induction lines generalizing first second with
  | nil => exact ⟨rfl, h⟩
  | cons line lines ih =>
    obtain ⟨houtput, hafter⟩ := ih (h.feed line)
    refine ⟨?_, hafter⟩
    simp only [Simulation.feedAll, Trail.behind, output_feed]
    rw [(h.robot_feed line).2, houtput]

end Simulation

end Tabletop
