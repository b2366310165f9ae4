import Tabletop.Proofs.Robot.Refusal
import Tabletop.Proofs.Simulation.Feed

/-!
# Lines without effect

A line is idle where it stands if it is blank, malformed, or a command that the robot refuses there.
An idle line leaves the robot as it is and brings no report (`Idle.feed`), so whatever idle lines
are taken out of a script, the others do the same as before (`Alike.feedAll_kept`). The log tells
which lines these are: it has one record for each line that is malformed or refused, and none for
any other.
-/

set_option autoImplicit false

namespace Tabletop

/-- The lines of a script, counted from `place` on, but for those at the places that are removed. -/
def kept (removed : Nat → Bool) (place : Nat) (lines : List String) : List String :=
  ((lines.zipIdx place).filter fun numbered => !removed numbered.2).map Prod.fst

theorem kept_cons_of_removed {removed : Nat → Bool} {place : Nat} {line : String}
    {lines : List String} (h : removed place = true) :
    kept removed place (line :: lines) = kept removed (place + 1) lines := by
  simp [kept, List.zipIdx_cons, h]

theorem kept_cons_of_not_removed {removed : Nat → Bool} {place : Nat} {line : String}
    {lines : List String} (h : removed place = false) :
    kept removed place (line :: lines) = line :: kept removed (place + 1) lines := by
  simp [kept, List.zipIdx_cons, h]

namespace Simulation

/-- A line that is neither blank nor a command. -/
def FindsMalformed (simulation : Simulation) (line : String) : Prop :=
  isBlankLine line = false ∧ ∃ malformed, parse simulation.mode line = .error malformed

/-- A line with a command that the robot refuses. -/
def Refuses (simulation : Simulation) (line : String) : Prop :=
  ∃ command, parse simulation.mode line = .ok command ∧ simulation.robot.Refuses command

/-- A line with a command that the robot obeys. -/
def Obeys (simulation : Simulation) (line : String) : Prop :=
  ∃ command, parse simulation.mode line = .ok command ∧ ¬ simulation.robot.Refuses command

/-- A line without effect. -/
inductive Idle (simulation : Simulation) (line : String) : Prop where
  | blank : isBlankLine line = true → Idle simulation line
  | malformed : simulation.FindsMalformed line → Idle simulation line
  | refused : simulation.Refuses line → Idle simulation line

variable {simulation : Simulation} {line : String}

theorem feed_of_findsMalformed (h : simulation.FindsMalformed line) :
    (simulation.feed line).after.robot = simulation.robot ∧
      (simulation.feed line).report = none ∧
      ∃ record, (simulation.feed line).record = some record ∧ record.level = .debug := by
  obtain ⟨hblank, malformed, hparse⟩ := h
  rw [simulation.feed_of_malformed hblank hparse]
  exact ⟨rfl, rfl, _, rfl, rfl⟩

theorem feed_of_refuses (h : simulation.Refuses line) :
    (simulation.feed line).after.robot = simulation.robot ∧
      (simulation.feed line).report = none ∧
      ∃ record, (simulation.feed line).record = some record ∧ record.level = .debug := by
  obtain ⟨command, hparse, hrefuses⟩ := h
  rw [simulation.feed_of_command hparse, Command.record?_of_refuses hrefuses]
  have hobey := Robot.obey_of_refuses hrefuses
  refine ⟨?_, ?_, _, rfl, rfl⟩
  · simp only [countCommand, hobey]
  · rw [hobey]
    rfl

theorem record_feed_of_obeys (h : simulation.Obeys line) :
    (simulation.feed line).record = none := by
  obtain ⟨command, hparse, hobeys⟩ := h
  rw [simulation.feed_of_command hparse]
  exact Command.record?_of_not_refuses hobeys

/-- An idle line changes nothing that later lines depend on, and brings no report. -/
theorem Idle.feed (h : simulation.Idle line) :
    Alike (simulation.feed line).after simulation ∧ (simulation.feed line).report = none := by
  have hfeed : (simulation.feed line).after.robot = simulation.robot ∧
      (simulation.feed line).report = none := by
    cases h with
    | blank hblank =>
      rw [simulation.feed_of_isBlankLine hblank]
      exact ⟨rfl, rfl⟩
    | malformed h =>
      obtain ⟨hrobot, hreport, -⟩ := feed_of_findsMalformed h
      exact ⟨hrobot, hreport⟩
    | refused h =>
      obtain ⟨hrobot, hreport, -⟩ := feed_of_refuses h
      exact ⟨hrobot, hreport⟩
  exact ⟨⟨hfeed.1, simulation.mode_feed line⟩, hfeed.2⟩

/-- The lines that are left of a script hand the same to the output, and leave the same robot, if
each of the others was idle in the run of the whole script. -/
theorem Alike.feedAll_kept {whole pruned : Simulation} (h : Alike whole pruned)
    {removed : Nat → Bool} {first : Nat} {lines : List String}
    (hidle : ∀ place line, lines[place]? = some line → removed (first + place) = true →
      (whole.feedAll (lines.take place)).after.Idle line) :
    (pruned.feedAll (kept removed first lines)).output = (whole.feedAll lines).output ∧
      Alike (whole.feedAll lines).after (pruned.feedAll (kept removed first lines)).after := by
  -- the whole run goes on line by line, the other one only at the lines that are left
  induction lines generalizing whole pruned first with
  | nil => exact ⟨rfl, h⟩
  | cons line lines ih =>
    have hlater : ∀ place later, lines[place]? = some later →
        removed (first + 1 + place) = true →
        ((whole.feed line).after.feedAll (lines.take place)).after.Idle later := by
      intro place later hline hremoved
      exact hidle (place + 1) later hline (by rwa [Nat.add_right_comm] at hremoved)
    cases hremoved : removed first with
    | true =>
      have hnow : whole.Idle line := hidle 0 line rfl hremoved
      obtain ⟨halike, hreport⟩ := hnow.feed
      obtain ⟨houtput, hafter⟩ := ih (halike.trans h) hlater
      rw [kept_cons_of_removed hremoved]
      refine ⟨?_, hafter⟩
      simp only [Simulation.feedAll, Trail.behind, output_feed, hreport, Option.toList_none,
        List.nil_append, houtput]
    | false =>
      obtain ⟨houtput, hafter⟩ := ih (h.feed line) hlater
      rw [kept_cons_of_not_removed hremoved]
      refine ⟨?_, hafter⟩
      simp only [Simulation.feedAll, Trail.behind, output_feed, (h.robot_feed line).2, houtput]

end Simulation

/-- Idle lines can be taken out of a script, any of them, without a change of its output or of where
the robot ends. A blank line changes nothing and leaves no record; a malformed line and a
refused command change nothing and leave one record of the least grave level; and a command that is
obeyed leaves no record. -/
theorem feedAll_kept_of_idle (board : Board) (mode : Mode) (lines : List String) :
    (∀ removed : Nat → Bool,
      (∀ place line, lines[place]? = some line → removed place = true →
        ((Simulation.new board mode).feedAll (lines.take place)).after.Idle line) →
      ((Simulation.new board mode).feedAll (kept removed 0 lines)).output =
          ((Simulation.new board mode).feedAll lines).output ∧
        ((Simulation.new board mode).feedAll (kept removed 0 lines)).after.robot =
          ((Simulation.new board mode).feedAll lines).after.robot) ∧
      ∀ (simulation : Simulation) (line : String),
        (isBlankLine line = true →
          (simulation.feed line).after.robot = simulation.robot ∧
            (simulation.feed line).record = none) ∧
        (simulation.FindsMalformed line ∨ simulation.Refuses line →
          (simulation.feed line).after.robot = simulation.robot ∧
            ∃ record, (simulation.feed line).record = some record ∧ record.level = .debug) ∧
        (simulation.Obeys line → (simulation.feed line).record = none) := by
  constructor
  · intro removed hidle
    have hnew : Simulation.Alike (Simulation.new board mode) (Simulation.new board mode) :=
      ⟨rfl, rfl⟩
    have hidle' : ∀ place line, lines[place]? = some line → removed (0 + place) = true →
        ((Simulation.new board mode).feedAll (lines.take place)).after.Idle line := by
      intro place line hline hremoved
      rw [Nat.zero_add] at hremoved
      exact hidle place line hline hremoved
    obtain ⟨houtput, hafter⟩ := hnew.feedAll_kept hidle'
    exact ⟨houtput, hafter.robot.symm⟩
  · intro simulation line
    refine ⟨?_, ?_, Simulation.record_feed_of_obeys⟩
    · intro hblank
      rw [simulation.feed_of_isBlankLine hblank]
      exact ⟨rfl, rfl⟩
    · rintro (h | h)
      · obtain ⟨hrobot, -, hrecord⟩ := Simulation.feed_of_findsMalformed h
        exact ⟨hrobot, hrecord⟩
      · obtain ⟨hrobot, -, hrecord⟩ := Simulation.feed_of_refuses h
        exact ⟨hrobot, hrecord⟩

/-- A script with a line of each kind, and three idle lines that are taken out of it. -/
theorem feedAll_kept_of_idle_cases :
    let script := ["LEFT", "PLACE 1,1,NORTH", " ", "JUMP", "MOVE", "PLACE 9,9,EAST", "REPORT"]
    let removed : Nat → Bool := fun place => place == 0 || place == 3 || place == 5
    kept removed 0 script = ["PLACE 1,1,NORTH", " ", "MOVE", "REPORT"] ∧
      ((Simulation.new Board.standard .strict).feedAll (kept removed 0 script)).output =
        ((Simulation.new Board.standard .strict).feedAll script).output ∧
      ((Simulation.new Board.standard .strict).feed "LEFT").record.isSome = true := by
  intro script removed
  refine ⟨rfl, ?_, ?_⟩
  · refine ((feedAll_kept_of_idle Board.standard .strict script).1 removed ?_).1
    intro place line hline hremoved
    have hplace : place = 0 ∨ place = 3 ∨ place = 5 := by
      simpa [removed, or_assoc] using hremoved
    rcases hplace with rfl | rfl | rfl
    · obtain rfl : "LEFT" = line := Option.some.inj hline
      exact .refused ⟨.left, rfl, .unplaced rfl rfl⟩
    · obtain rfl : "JUMP" = line := Option.some.inj hline
      exact .malformed ⟨rfl, _, rfl⟩
    · obtain rfl : "PLACE 9,9,EAST" = line := Option.some.inj hline
      exact .refused ⟨.place 9 9 .east, rfl, .placeOff (by decide)⟩
  · have hrefuses : (Simulation.new Board.standard .strict).Refuses "LEFT" :=
      ⟨.left, rfl, .unplaced rfl rfl⟩
    obtain ⟨-, record, hrecord, -⟩ := ((feedAll_kept_of_idle Board.standard .strict script).2
      (Simulation.new Board.standard .strict) "LEFT").2.1 (Or.inr hrefuses)
    rw [hrecord]
    rfl

end Tabletop
