import Tabletop.Board
import Tabletop.Command

/-!
# Robots

A robot on a board keeps a square, a direction and whether it has been placed. Until then the
square and the direction mean nothing, and only a placement is obeyed. Each operation gives the
robot after it, or none if it is refused; `obey` takes any command and leaves a robot that refuses
as it is.

A placement and a move are refused where they would leave the board, so a placed robot stays on it
(`OnBoard.obey`).
-/

set_option autoImplicit false

namespace Tabletop

/-- A robot and the board it belongs to. -/
structure Robot where
  board : Board
  x : Int := 0
  y : Int := 0
  direction : Direction := .north
  onBoard : Bool := false
  deriving DecidableEq, Repr

/-- What a robot does about a command. -/
inductive Response where
  | done
  | reported (text : String)
  | refused
  deriving DecidableEq, Repr

/-- The text of a report. -/
def Response.report? : Response → Option String
  | .reported text => some text
  | _ => none

/-- What a robot that responds so hands to the output. -/
def Response.output : Response → List String
  | .reported text => [text]
  | _ => []

theorem Response.output_eq (response : Response) :
    response.output = response.report?.toList := by
  cases response <;> rfl

/-- Whether the command was refused. -/
def Response.isRefused : Response → Bool
  | .refused => true
  | _ => false

namespace Robot

/-- A robot that has not been placed. -/
def new (board : Board) : Robot where
  board := board

/-- The robot put on a square of the board. -/
def place? (robot : Robot) (x y : Int) (direction : Direction) : Option Robot :=
  if robot.board.contains x y then
    some { robot with x := x, y := y, direction := direction, onBoard := true }
  else none

/-- The robot one square on. -/
def move? (robot : Robot) : Option Robot :=
  let x := robot.x + robot.direction.step.1
  let y := robot.y + robot.direction.step.2
  if robot.onBoard && robot.board.contains x y then some { robot with x := x, y := y } else none

/-- The robot turned counter-clockwise. -/
def left? (robot : Robot) : Option Robot :=
  if robot.onBoard then some { robot with direction := robot.direction.left } else none

/-- The robot turned clockwise. -/
def right? (robot : Robot) : Option Robot :=
  if robot.onBoard then some { robot with direction := robot.direction.right } else none

/-- The square of a placed robot. -/
def position? (robot : Robot) : Option (Int × Int) :=
  if robot.onBoard then some (robot.x, robot.y) else none

/-- What a placed robot reports. -/
def report? (robot : Robot) : Option String :=
  robot.position?.map fun square => positionText square.1 square.2 robot.direction

/-- A robot after an operation that may have been refused. -/
def settle (robot : Robot) : Option Robot → Robot × Response
  | some moved => (moved, .done)
  | none => (robot, .refused)

/-- The robot after a command, and what it did about it. -/
def obey (robot : Robot) : Command → Robot × Response
  | .place x y direction => robot.settle (robot.place? x y direction)
  | .move => robot.settle robot.move?
  | .left => robot.settle robot.left?
  | .right => robot.settle robot.right?
  | .report =>
    match robot.report? with
    | some text => (robot, .reported text)
    | none => (robot, .refused)

/-- A robot that has been placed stands on a square of its board. -/
def OnBoard (robot : Robot) : Prop :=
  robot.onBoard = true → robot.board.contains robot.x robot.y = true

theorem OnBoard.new (board : Board) : OnBoard (Robot.new board) := by
  simp [OnBoard, Robot.new]

theorem OnBoard.obey {robot : Robot} (h : robot.OnBoard) (command : Command) :
    (robot.obey command).1.OnBoard := by
  cases command with
  | place x y direction =>
    simp only [Robot.obey, place?]
    split
    · intro _
      assumption
    · exact h
  | move =>
    simp only [Robot.obey, move?]
    split
    · rename_i hm
      intro _
      simpa using (Bool.and_eq_true _ _ ▸ hm).2
    · exact h
  | left =>
    simp only [Robot.obey, left?]
    split
    · exact h
    · exact h
  | right =>
    simp only [Robot.obey, right?]
    split
    · exact h
    · exact h
  | report =>
    simp only [Robot.obey]
    split <;> exact h

theorem board_obey (robot : Robot) (command : Command) :
    (robot.obey command).1.board = robot.board := by
  cases command with
  | place x y direction => simp only [obey, place?]; split <;> rfl
  | move => simp only [obey, move?]; split <;> rfl
  | left => simp only [obey, left?]; split <;> rfl
  | right => simp only [obey, right?]; split <;> rfl
  | report => simp only [obey]; split <;> rfl

end Robot

end Tabletop
