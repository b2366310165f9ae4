import Tabletop.Proofs.Robot.Compass
import Tabletop.Simulation

/-!
# Refused commands

`Robot.Refuses` lists what a robot refuses: every command but a placement before it has been placed,
and whatever would take it off the board. These are the commands that it answers by a refusal
(`refuses_iff`), and each of them leaves it as it is (`obey_of_refuses`).
-/

set_option autoImplicit false

namespace Tabletop

theorem Response.isRefused_iff {response : Response} :
    response.isRefused = true ↔ response = .refused := by
  cases response with
  | done => simp [isRefused]
  | reported text => simp [isRefused]
  | refused => simp [isRefused]

namespace Robot

/-- The commands that a robot refuses. A square is on the board if each coordinate is at least zero
and less than its side, and a move would lead to the square next to that of the robot. -/
inductive Refuses (robot : Robot) : Command → Prop where
  | unplaced {command : Command} : robot.onBoard = false → command.isPlace = false →
      Refuses robot command
  | placeOff {x y : Int} {direction : Direction} :
      ¬ ((0 ≤ x ∧ x < robot.board.width) ∧ (0 ≤ y ∧ y < robot.board.height)) →
      Refuses robot (.place x y direction)
  | moveOff {x y : Int} : robot.onBoard = true →
      Neighbour robot.x robot.y robot.direction x y →
      ¬ ((0 ≤ x ∧ x < robot.board.width) ∧ (0 ≤ y ∧ y < robot.board.height)) →
      Refuses robot .move

theorem settle_eq_refused_iff {robot : Robot} {moved : Option Robot} :
    (robot.settle moved).2 = .refused ↔ moved = none := by
  cases moved with
  | none => simp [settle]
  | some moved => simp [settle]

variable {robot : Robot} {command : Command}

/-- A command that is refused leaves the robot as it is. -/
theorem obey_of_refuses (h : robot.Refuses command) : robot.obey command = (robot, .refused) := by
  cases h with
  | unplaced hoff hplace =>
    cases command with
    | place x y direction => simp [Command.isPlace] at hplace
    | move => simp [obey, move?, hoff, settle]
    | left => simp [obey, left?, hoff, settle]
    | right => simp [obey, right?, hoff, settle]
    | report => simp [obey, report?, position?, hoff]
  | placeOff hsquare =>
    have hcontains := mt Board.contains_iff.1 hsquare
    simp [obey, place?, hcontains, settle]
  | moveOff hon hnext hsquare =>
    obtain ⟨rfl, rfl⟩ := neighbour_iff.1 hnext
    have hcontains := mt Board.contains_iff.1 hsquare
    simp [obey, move?, hcontains, settle]

/-- A robot answers by a refusal exactly to the commands that it refuses. -/
theorem refuses_iff : robot.Refuses command ↔ (robot.obey command).2 = .refused := by
  constructor
  · intro h
    rw [obey_of_refuses h]
  · intro h
    cases command with
    | place x y direction =>
      have hnone := settle_eq_refused_iff.1 h
      refine .placeOff fun hsquare => ?_
      simp [place?, Board.contains_iff.2 hsquare] at hnone
    | move =>
      have hnone := settle_eq_refused_iff.1 h
      cases hon : robot.onBoard with
      | false => exact .unplaced hon rfl
      | true =>
        refine .moveOff hon (neighbour_step _ _ _) fun hsquare => ?_
        simp [move?, hon, Board.contains_iff.2 hsquare] at hnone
    | left =>
      have hnone := settle_eq_refused_iff.1 h
      exact .unplaced (by simpa [left?] using hnone) rfl
    | right =>
      have hnone := settle_eq_refused_iff.1 h
      exact .unplaced (by simpa [right?] using hnone) rfl
    | report =>
      cases hon : robot.onBoard with
      | false => exact .unplaced hon rfl
      | true => simp [obey, report?, position?, hon] at h

end Robot

/-- A refused command leaves a record. -/
theorem Command.record?_of_refuses {robot : Robot} {command : Command}
    (h : robot.Refuses command) :
    command.record? (robot.obey command).2 = some command.refusal :=
  if_pos (Response.isRefused_iff.2 (Robot.refuses_iff.1 h))

/-- Any other command leaves none. -/
theorem Command.record?_of_not_refuses {robot : Robot} {command : Command}
    (h : ¬ robot.Refuses command) : command.record? (robot.obey command).2 = none :=
  if_neg fun hrefused => h (Robot.refuses_iff.2 (Response.isRefused_iff.1 hrefused))

end Tabletop
