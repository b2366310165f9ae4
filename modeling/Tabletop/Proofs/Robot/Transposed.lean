import Tabletop.Proofs.Command.Position
import Tabletop.Proofs.Robot.Refinement

/-!
# The symmetry of the two axes

Exchanging the two axes takes a board to the board with its sides exchanged, north to east and
south to west, and so a turn to the left to a turn to the right. `transposed` names this on
everything a robot is given and on everything that can be seen of it.

The machine of a robot keeps the symmetry in one step (`Machine.obey_transposed`), so robots on
exchanged boards whose states are exchanged stay so (`Robot.Exchanged.obey`), under any commands
(`trace_new_transposed`). A report is text, and its image is the text with its two coordinates
exchanged (`transposedText_positionText`).
-/

set_option autoImplicit false

namespace Tabletop

/-! ## What the exchange does -/

/-- The board with its sides exchanged. -/
def Board.transposed (board : Board) : Board where
  width := board.height
  height := board.width
  width_pos := board.height_pos
  height_pos := board.width_pos

theorem Board.contains_transposed (board : Board) (x y : Int) :
    board.transposed.contains y x = board.contains x y := by
  rw [Bool.eq_iff_iff, contains_iff, contains_iff]
  exact and_comm

namespace Direction

/-- The direction along the other axis, the same way. -/
def transposed : Direction → Direction
  | north => east
  | east => north
  | south => west
  | west => south

theorem step_transposed (direction : Direction) :
    direction.transposed.step = (direction.step.2, direction.step.1) := by
  cases direction <;> rfl

/-- The exchange is a reflection, so it changes the sense of a turn. -/
theorem left_transposed (direction : Direction) :
    direction.transposed.left = direction.right.transposed := by
  cases direction <;> rfl

theorem right_transposed (direction : Direction) :
    direction.transposed.right = direction.left.transposed := by
  cases direction <;> rfl

end Direction

/-- The command that does along the other axis what a command does. -/
def Command.transposed : Command → Command
  | .place x y direction => .place y x direction.transposed
  | .move => .move
  | .left => .right
  | .right => .left
  | .report => .report

/-- The state with its coordinates exchanged. -/
def Machine.transposed : Machine → Machine
  | .unplaced => .unplaced
  | .placed x y direction => .placed y x direction.transposed

/-- The text of a report with its coordinates exchanged and its direction along the other axis. A
text that is no report stays as it is. -/
def transposedText (text : String) : String :=
  match Text.splitOn ',' text.toList with
  | [x, y, name] =>
    match Direction.ofName? (String.ofList name) with
    | some direction =>
      String.ofList y ++ "," ++ String.ofList x ++ "," ++ direction.transposed.name
    | none => text
  | _ => text

/-- The response with the text of a report exchanged. -/
def Response.transposed : Response → Response
  | .done => .done
  | .reported text => .reported (transposedText text)
  | .refused => .refused

/-! ## Reports -/

theorem transposedText_positionText (x y : Int) (direction : Direction) :
    transposedText (positionText x y direction) = positionText y x direction.transposed := by
  rw [transposedText, Grammar.splitOn_positionText]
  simp only [String.ofList_toList, Direction.ofName?_name, positionText]

example : transposedText "1,2,NORTH" = "2,1,EAST" := by decide +kernel

/-! ## One step -/

/-- A machine on the exchanged board does with the exchanged command what the machine does. -/
theorem Machine.obey_transposed (board : Board) (state : Machine) (command : Command) :
    Machine.obey board.transposed state.transposed command.transposed =
      ((Machine.obey board state command).1.transposed,
        (Machine.obey board state command).2.transposed) := by
  cases command with
  | place x y direction =>
    simp only [obey, Command.transposed, Board.contains_transposed]
    split
    · rfl
    · rfl
  | move =>
    cases state with
    | unplaced => rfl
    | placed x y direction =>
      -- the step is exchanged too, so both robots try squares that are exchanged
      simp only [obey, transposed, Command.transposed, Direction.step_transposed,
        Board.contains_transposed]
      split
      · rfl
      · rfl
  | left =>
    cases state with
    | unplaced => rfl
    | placed x y direction =>
      simp only [obey, transposed, Command.transposed, Direction.right_transposed]
      rfl
  | right =>
    cases state with
    | unplaced => rfl
    | placed x y direction =>
      simp only [obey, transposed, Command.transposed, Direction.left_transposed]
      rfl
  | report =>
    cases state with
    | unplaced => rfl
    | placed x y direction =>
      simp only [obey, transposed, Command.transposed, Response.transposed,
        transposedText_positionText]

/-! ## Runs -/

namespace Robot

/-- The response of a robot to each of some commands, with the state after it. -/
def trace : Robot → List Command → List (Response × Machine)
  | _, [] => []
  | robot, command :: commands =>
    ((robot.obey command).2, (robot.obey command).1.machine) ::
      (robot.obey command).1.trace commands

/-- Two robots on exchanged boards in exchanged states. -/
structure Exchanged (robot other : Robot) : Prop where
  board : other.board = robot.board.transposed
  machine : other.machine = robot.machine.transposed

theorem Exchanged.new (board : Board) :
    Exchanged (Robot.new board) (Robot.new board.transposed) where
  board := rfl
  machine := rfl

section

variable {robot other : Robot} (h : Exchanged robot other)
include h

theorem Exchanged.obey_eq (command : Command) :
    ((other.obey command.transposed).1.machine, (other.obey command.transposed).2) =
      ((robot.obey command).1.machine.transposed, (robot.obey command).2.transposed) := by
  calc ((other.obey command.transposed).1.machine, (other.obey command.transposed).2)
      = Machine.obey other.board other.machine command.transposed :=
        (other.machine_obey command.transposed).symm
    _ = Machine.obey robot.board.transposed robot.machine.transposed command.transposed := by
        rw [h.board, h.machine]
    _ = ((robot.obey command).1.machine.transposed, (robot.obey command).2.transposed) := by
        rw [Machine.obey_transposed, robot.machine_obey]

/-- A command and its image leave the two robots exchanged. -/
theorem Exchanged.obey (command : Command) :
    Exchanged (robot.obey command).1 (other.obey command.transposed).1 where
  board := by rw [board_obey, board_obey, h.board]
  machine := congrArg Prod.fst (h.obey_eq command)

/-- Under commands and their images the robots answer with exchanged responses and go through
exchanged states. -/
theorem Exchanged.trace_eq (commands : List Command) :
    other.trace (commands.map Command.transposed) =
      (robot.trace commands).map fun step => (step.1.transposed, step.2.transposed) := by
  -- the robots change under the commands, so the statement is for all exchanged ones at once
  induction commands generalizing robot other with
  | nil => rfl
  | cons command commands ih =>
    obtain ⟨hmachine, hresponse⟩ := Prod.mk.inj (h.obey_eq command)
    rw [List.map_cons, trace, trace, List.map_cons, hmachine, hresponse]
    rw [ih (h.obey command)]

end

end Robot

theorem Response.isRefused_transposed (response : Response) :
    response.transposed.isRefused = response.isRefused := by
  cases response <;> rfl

theorem Response.isSome_report?_transposed (response : Response) :
    response.transposed.report?.isSome = response.report?.isSome := by
  cases response <;> rfl

/-- New robots on a board and on the exchanged board, given commands and their images: the same
commands are refused, reports are made at the same steps, and each response and each state of the
second robot is the image of the one of the first. -/
theorem trace_new_transposed (board : Board) (commands : List Command) :
    let seen := (Robot.new board).trace commands
    let image := (Robot.new board.transposed).trace (commands.map Command.transposed)
    image = seen.map (fun step => (step.1.transposed, step.2.transposed)) ∧
      image.map (fun step => step.1.isRefused) = seen.map (fun step => step.1.isRefused) ∧
      image.map (fun step => step.1.report?.isSome) =
        seen.map (fun step => step.1.report?.isSome) := by
  intro seen image
  have himage : image = seen.map (fun step => (step.1.transposed, step.2.transposed)) :=
    (Robot.Exchanged.new board).trace_eq commands
  refine ⟨himage, ?_, ?_⟩
  · rw [himage, List.map_map]
    exact List.map_congr_left fun step _ => Response.isRefused_transposed step.1
  · rw [himage, List.map_map]
    exact List.map_congr_left fun step _ => Response.isSome_report?_transposed step.1

end Tabletop
