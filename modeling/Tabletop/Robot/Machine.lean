import Tabletop.Robot

/-!
# The two states of a robot

What a robot lets be seen needs only two states: it is not placed, or it stands on a square and
faces a direction. `Machine.obey` says what each command does in each of them, without the square
and the direction that a robot keeps while it is not placed.
-/

set_option autoImplicit false

namespace Tabletop

/-- What can be seen of a robot. -/
inductive Machine where
  | unplaced
  | placed (x y : Int) (direction : Direction)
  deriving DecidableEq, Repr

namespace Machine

/-- The square of a placed machine. -/
def position? : Machine → Option (Int × Int)
  | unplaced => none
  | placed x y _ => some (x, y)

/-- The state after a command on a board, and the response. -/
def obey (board : Board) : Machine → Command → Machine × Response
  | state, .place x y direction =>
    if board.contains x y then (placed x y direction, .done) else (state, .refused)
  | unplaced, _ => (unplaced, .refused)
  | placed x y direction, .move =>
    let (dx, dy) := direction.step
    if board.contains (x + dx) (y + dy) then (placed (x + dx) (y + dy) direction, .done)
    else (placed x y direction, .refused)
  | placed x y direction, .left => (placed x y direction.left, .done)
  | placed x y direction, .right => (placed x y direction.right, .done)
  | placed x y direction, .report => (placed x y direction, .reported (positionText x y direction))

end Machine

/-- What can be seen of a robot's fields. -/
def Robot.machine (robot : Robot) : Machine :=
  if robot.onBoard then .placed robot.x robot.y robot.direction else .unplaced

end Tabletop
