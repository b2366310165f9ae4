import Tabletop.Proofs.Robot.Compass
import Tabletop.Robot.Machine

/-!
# Robots and the machine with two states

`Machine.Step` is the table of the two states: which response each command gets in each state, and
which state follows. `Machine.Run` puts its steps together. The table leaves no choice and no gap
(`Machine.step_iff_obey`).

`Robot.machine` forgets the square and the direction of a robot that has not been placed. Every
command keeps it (`Robot.machine_obey`), so what can be seen of a robot under any commands is the
one run of the machine (`Robot.run_machine_iff`).
-/

set_option autoImplicit false

namespace Tabletop

/-- What can be seen of a command: the response to it and the square after it, if there is one. -/
structure Observation where
  response : Response
  position : Option (Int × Int)
  deriving DecidableEq, Repr

/-- What can be seen of a robot that is given some commands. -/
def Robot.observe : Robot → List Command → List Observation
  | _, [] => []
  | robot, command :: commands =>
    ⟨(robot.obey command).2, (robot.obey command).1.position?⟩ ::
      (robot.obey command).1.observe commands

namespace Machine

/-- The table of the two states on a board: a state, a command, the response, and the next state. A
square is on the board if each coordinate is at least zero and less than its side; a move leads to
the square next to the one before it; a turn goes one place on or back in the clockwise order of the
directions. -/
inductive Step (board : Board) : Machine → Command → Response → Machine → Prop where
  | place {state : Machine} {x y : Int} {direction : Direction} :
      (0 ≤ x ∧ x < board.width) ∧ (0 ≤ y ∧ y < board.height) →
      Step board state (.place x y direction) .done (.placed x y direction)
  | placeOff {state : Machine} {x y : Int} {direction : Direction} :
      ¬ ((0 ≤ x ∧ x < board.width) ∧ (0 ≤ y ∧ y < board.height)) →
      Step board state (.place x y direction) .refused state
  | unplaced {command : Command} : command.isPlace = false →
      Step board .unplaced command .refused .unplaced
  | move {x y x' y' : Int} {direction : Direction} :
      Neighbour x y direction x' y' →
      (0 ≤ x' ∧ x' < board.width) ∧ (0 ≤ y' ∧ y' < board.height) →
      Step board (.placed x y direction) .move .done (.placed x' y' direction)
  | moveOff {x y x' y' : Int} {direction : Direction} :
      Neighbour x y direction x' y' →
      ¬ ((0 ≤ x' ∧ x' < board.width) ∧ (0 ≤ y' ∧ y' < board.height)) →
      Step board (.placed x y direction) .move .refused (.placed x y direction)
  | left {x y : Int} {direction turned : Direction} :
      turned.index = (direction.index + 3) % 4 →
      Step board (.placed x y direction) .left .done (.placed x y turned)
  | right {x y : Int} {direction turned : Direction} :
      turned.index = (direction.index + 1) % 4 →
      Step board (.placed x y direction) .right .done (.placed x y turned)
  | report {x y : Int} {direction : Direction} {text : String} :
      IsPositionText x y direction text →
      Step board (.placed x y direction) .report (.reported text) (.placed x y direction)

/-- The commands that the table takes from a state on, and what can be seen of them. -/
inductive Run (board : Board) : Machine → List Command → List Observation → Prop where
  | nil {state : Machine} : Run board state [] []
  | cons {state next : Machine} {command : Command} {response : Response}
      {commands : List Command} {observations : List Observation} :
      Step board state command response next → Run board next commands observations →
      Run board state (command :: commands) (⟨response, next.position?⟩ :: observations)

theorem eq_left_of_index {direction turned : Direction}
    (h : turned.index = (direction.index + 3) % 4) : turned = direction.left := by
  cases direction <;> cases turned <;> simp_all [Direction.index, Direction.left]

theorem eq_right_of_index {direction turned : Direction}
    (h : turned.index = (direction.index + 1) % 4) : turned = direction.right := by
  cases direction <;> cases turned <;> simp_all [Direction.index, Direction.right]

theorem index_left (direction : Direction) :
    direction.left.index = (direction.index + 3) % 4 := by
  cases direction <;> rfl

/-- Each command has its row in the table. -/
theorem step_obey (board : Board) (state : Machine) (command : Command) :
    Step board state command (obey board state command).2 (obey board state command).1 := by
  cases command with
  | place x y direction =>
    simp only [obey]
    split
    · rename_i hcontains
      exact .place (Board.contains_iff.1 hcontains)
    · rename_i hcontains
      exact .placeOff fun h => hcontains (Board.contains_iff.2 h)
  | move =>
    cases state with
    | unplaced => exact .unplaced rfl
    | placed x y direction =>
      simp only [obey]
      split
      · rename_i hcontains
        exact .move (neighbour_step x y direction) (Board.contains_iff.1 hcontains)
      · rename_i hcontains
        exact .moveOff (neighbour_step x y direction) fun h =>
          hcontains (Board.contains_iff.2 h)
  | left =>
    cases state with
    | unplaced => exact .unplaced rfl
    | placed x y direction => exact .left (index_left direction)
  | right =>
    cases state with
    | unplaced => exact .unplaced rfl
    | placed x y direction => exact .right (Direction.turn_eq_index direction)
  | report =>
    cases state with
    | unplaced => exact .unplaced rfl
    | placed x y direction => exact .report (isPositionText_positionText x y direction)

/-- The table is what `obey` computes. -/
theorem step_iff_obey {board : Board} {state next : Machine} {command : Command}
    {response : Response} :
    Step board state command response next ↔ obey board state command = (next, response) := by
  constructor
  · intro h
    cases h with
    | place hon => simp [obey, Board.contains_iff.2 hon]
    | placeOff hoff => simp [obey, mt Board.contains_iff.1 hoff]
    | unplaced hplace =>
      cases command with
      | place x y direction => simp [Command.isPlace] at hplace
      | move => rfl
      | left => rfl
      | right => rfl
      | report => rfl
    | move hnext hon =>
      obtain ⟨rfl, rfl⟩ := neighbour_iff.1 hnext
      simp [obey, Board.contains_iff.2 hon]
    | moveOff hnext hoff =>
      obtain ⟨rfl, rfl⟩ := neighbour_iff.1 hnext
      simp [obey, mt Board.contains_iff.1 hoff]
    | left hturned => rw [eq_left_of_index hturned, obey]
    | right hturned => rw [eq_right_of_index hturned, obey]
    | report htext => rw [isPositionText_iff.1 htext, obey]
  · intro h
    have hstep := step_obey board state command
    rwa [h] at hstep

end Machine

namespace Robot

theorem position?_eq_machine (robot : Robot) : robot.position? = robot.machine.position? := by
  unfold position? machine
  cases robot.onBoard <;> rfl

/-- A command takes the machine of a robot to the machine of the robot after it, with the same
response. This is where the fields of a robot that is not placed are forgotten. -/
theorem machine_obey (robot : Robot) (command : Command) :
    Machine.obey robot.board robot.machine command =
      ((robot.obey command).1.machine, (robot.obey command).2) := by
  obtain ⟨board, x, y, direction, onBoard⟩ := robot
  cases command with
  | place x' y' direction' =>
    simp only [Machine.obey, obey, place?]
    split
    · rfl
    · rfl
  | move =>
    cases onBoard with
    | false => rfl
    | true =>
      -- both commit the same square under the same test
      simp only [Machine.obey, machine, obey, move?, Bool.true_and, if_true]
      split
      · rfl
      · rfl
  | left => cases onBoard <;> rfl
  | right => cases onBoard <;> rfl
  | report => cases onBoard <;> rfl

/-- The run of the machine of a robot is what can be seen of the robot, and there is no other. -/
theorem run_machine_iff (robot : Robot) (commands : List Command)
    (observations : List Observation) :
    Machine.Run robot.board robot.machine commands observations ↔
      observations = robot.observe commands := by
  -- the robot changes under the commands, so the statement is for all robots at once
  induction commands generalizing robot observations with
  | nil =>
    constructor
    · intro h
      cases h with
      | nil => rfl
    · rintro rfl
      exact .nil
  | cons command commands ih =>
    have hnext := ih (robot.obey command).1
    rw [board_obey] at hnext
    have hstep := Machine.step_iff_obey.2 (robot.machine_obey command)
    constructor
    · intro h
      cases h with
      | cons hstep' hrun =>
        -- the table has one row for the command, so the run goes on from the robot after it
        have hsame := Machine.step_iff_obey.1 hstep'
        rw [robot.machine_obey command, Prod.mk.injEq] at hsame
        obtain ⟨rfl, rfl⟩ := hsame
        rw [(hnext _).1 hrun, ← position?_eq_machine]
        rfl
    · rintro rfl
      rw [observe, position?_eq_machine]
      exact .cons hstep ((hnext _).2 rfl)

end Robot

/-- A robot that has not been placed shows, under any commands, exactly the run of the machine that
starts unplaced: the responses, with the texts of the reports, and the squares. What its fields held
before makes no difference to any of it. -/
theorem observe_unplaced_iff_run (board : Board) (x y : Int) (direction : Direction)
    (commands : List Command) :
    (∀ observations, Machine.Run board .unplaced commands observations ↔
        observations = Robot.observe ⟨board, x, y, direction, false⟩ commands) ∧
      ∀ (x' y' : Int) (direction' : Direction),
        Robot.observe ⟨board, x', y', direction', false⟩ commands =
          Robot.observe ⟨board, x, y, direction, false⟩ commands := by
  have hrun : ∀ (x y : Int) (direction : Direction) (observations : List Observation),
      Machine.Run board .unplaced commands observations ↔
        observations = Robot.observe ⟨board, x, y, direction, false⟩ commands :=
    fun x y direction => Robot.run_machine_iff ⟨board, x, y, direction, false⟩ commands
  refine ⟨hrun x y direction, ?_⟩
  intro x' y' direction'
  exact (hrun x y direction _).1 ((hrun x' y' direction' _).2 rfl)

end Tabletop
