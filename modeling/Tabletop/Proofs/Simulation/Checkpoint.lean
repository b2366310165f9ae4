import Mathlib.Algebra.Group.Int.Defs
import Tabletop.Proofs.Command.Position
import Tabletop.Proofs.Simulation.Bounds

/-!
# Reports as checkpoints

All that later lines depend on is in the report of a placed robot. A line with that report for its
placement takes a new robot to the same place (`Legal.obey_place_new`), in either mode, as long as
the sides of the board keep the coordinates within ten digits. So a script can be cut after any line
that leaves the robot placed, and its rest be run by a new simulation from the report on.
-/

set_option autoImplicit false

namespace Tabletop

namespace Robot

variable {board : Board} {robot : Robot}

theorem report?_of_onBoard (hon : robot.onBoard = true) :
    robot.report? = some (positionText robot.x robot.y robot.direction) := by
  simp only [report?, position?, hon, if_true, Option.map_some]

/-- A placement at the position of a legal robot makes that robot out of a new one. -/
theorem Legal.obey_place_new (h : Legal board robot) (hon : robot.onBoard = true) :
    (Robot.new board).obey (.place robot.x robot.y robot.direction) = (robot, .done) := by
  obtain ⟨rfl, hsquare, -⟩ := h
  obtain ⟨board, x, y, direction, onBoard⟩ := robot
  obtain rfl : onBoard = true := hon
  have hcontains : board.contains x y = true := hsquare rfl
  simp only [Robot.obey, place?, Robot.new, hcontains, if_true, settle]

/-- On a board with sides of at most `10 ^ 10` no coordinate has more than ten digits. -/
theorem Legal.natAbs_lt (h : Legal board robot) (hon : robot.onBoard = true)
    (hwidth : board.width ≤ 10 ^ 10) (hheight : board.height ≤ 10 ^ 10) :
    robot.x.natAbs < 10 ^ 10 ∧ robot.y.natAbs < 10 ^ 10 := by
  obtain ⟨hx, hy⟩ := h.bounds hon
  constructor
  · omega
  · omega

end Robot

namespace Simulation

/-- The line that places a new robot where another one stands does so without a report. -/
theorem feed_place_new {board : Board} {robot : Robot} (mode : Mode) (h : robot.Legal board)
    (hon : robot.onBoard = true) (hwidth : board.width ≤ 10 ^ 10)
    (hheight : board.height ≤ 10 ^ 10) :
    let line := "PLACE " ++ positionText robot.x robot.y robot.direction
    ((Simulation.new board mode).feed line).after.robot = robot ∧
      ((Simulation.new board mode).feed line).report = none := by
  intro line
  obtain ⟨hx, hy⟩ := h.natAbs_lt hon hwidth hheight
  have hparse : parse mode line = .ok (.place robot.x robot.y robot.direction) :=
    parse_of_written mode (Grammar.written_positionText robot.direction hx hy)
  have hobey := h.obey_place_new hon
  rw [(Simulation.new board mode).feed_of_command hparse]
  constructor
  · simp only [countCommand, Simulation.new, hobey]
  · simp only [Simulation.new, hobey, Response.report?]

end Simulation

/-- A report is a complete checkpoint. If some lines leave the robot placed, it reports, and further
lines go on in the same way from a new simulation that is first given the report as a placement:
the output of all lines is that of the first and then that of the new simulation, and the robot ends
as the same. -/
theorem feedAll_from_report (board : Board) (mode : Mode) (earlier later : List String)
    (hwidth : board.width ≤ 10 ^ 10) (hheight : board.height ≤ 10 ^ 10)
    (hplaced : ((Simulation.new board mode).feedAll earlier).after.robot.onBoard = true) :
    ∃ report, ((Simulation.new board mode).feedAll earlier).after.robot.report? = some report ∧
      let whole := (Simulation.new board mode).feedAll (earlier ++ later)
      let resumed := (Simulation.new board mode).feedAll (("PLACE " ++ report) :: later)
      whole.output =
          ((Simulation.new board mode).feedAll earlier).output ++ resumed.output ∧
        whole.after.robot = resumed.after.robot := by
  have hlegal : ((Simulation.new board mode).feedAll earlier).after.robot.Legal board :=
    Simulation.feedAll_invariant (P := fun simulation => simulation.robot.Legal board)
      Simulation.legal_feed (Robot.Legal.new board) earlier
  refine ⟨_, Robot.report?_of_onBoard hplaced, ?_⟩
  intro whole resumed
  obtain ⟨hrobot, hreport⟩ := Simulation.feed_place_new mode hlegal hplaced hwidth hheight
  -- after the placement the new simulation differs from the old one in its figures only
  have halike : Simulation.Alike ((Simulation.new board mode).feedAll earlier).after _ :=
    { robot := hrobot.symm
      mode := by rw [Simulation.mode_feed, Simulation.mode_feedAll] }
  obtain ⟨houtput, hafter⟩ := halike.feedAll later
  have hwhole : whole = _ := Simulation.feedAll_append _ earlier later
  rw [hwhole]
  refine ⟨?_, hafter.robot⟩
  simp only [resumed, Simulation.feedAll, Trail.behind, Simulation.output_feed, hreport,
    Option.toList_none, List.nil_append, houtput]

/-- A robot that has turned in a corner, and the lines after its report. -/
theorem feedAll_from_report_corner :
    let earlier := ["PLACE 4,4,NORTH", "MOVE", "RIGHT"]
    let later := ["REPORT", "LEFT", "LEFT", "MOVE"]
    ((Simulation.new Board.standard .strict).feedAll earlier).after.robot.onBoard = true ∧
      ((Simulation.new Board.standard .strict).feedAll (earlier ++ later)).after.robot =
        ((Simulation.new Board.standard .strict).feedAll
          ("PLACE 4,4,EAST" :: later)).after.robot := by
  intro earlier later
  refine ⟨rfl, ?_⟩
  obtain ⟨report, hreport, -, hrobot⟩ :=
    feedAll_from_report Board.standard .strict earlier later (by decide) (by decide) rfl
  obtain rfl : "4,4,EAST" = report := Option.some.inj hreport
  exact hrobot

end Tabletop
