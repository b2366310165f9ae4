import Tabletop.Text.Blank

/-!
# Directions

The four directions of the compass, how they turn into each other, and the step each leads to. The
first coordinate grows to the east, the second to the north.

`right_left` and `left_right` say that the turns undo each other, `turn_eq_index` that a turn to the
right is one place on in the clockwise order.
-/

set_option autoImplicit false

namespace Tabletop

/-- A direction of the compass, in clockwise order. -/
inductive Direction where
  | north
  | east
  | south
  | west
  deriving DecidableEq, Repr

namespace Direction

/-- The directions in clockwise order. -/
def clockwise : List Direction := [north, east, south, west]

/-- The place of a direction in the clockwise order. -/
def index : Direction → Nat
  | north => 0
  | east => 1
  | south => 2
  | west => 3

/-- The direction a quarter turn clockwise. -/
def right : Direction → Direction
  | north => east
  | east => south
  | south => west
  | west => north

/-- The direction a quarter turn counter-clockwise. -/
def left : Direction → Direction
  | north => west
  | west => south
  | south => east
  | east => north

/-- What one step changes of the two coordinates. -/
def step : Direction → Int × Int
  | north => (0, 1)
  | east => (1, 0)
  | south => (0, -1)
  | west => (-1, 0)

/-- The name of a direction. -/
def name : Direction → String
  | north => "NORTH"
  | east => "EAST"
  | south => "SOUTH"
  | west => "WEST"

/-- The direction of a name, which has to be in upper case. -/
def ofName? (name : String) : Option Direction :=
  clockwise.find? fun direction => direction.name == name

/-- The direction of a name in any case; a text that is not ASCII is no name. -/
def ofToken? (token : List Char) : Option Direction :=
  if token.all Text.isAscii then ofName? (String.ofList (Text.upper token)) else none

theorem right_left (direction : Direction) : direction.right.left = direction := by
  cases direction <;> rfl

theorem left_right (direction : Direction) : direction.left.right = direction := by
  cases direction <;> rfl

theorem turn_eq_index (direction : Direction) :
    direction.right.index = (direction.index + 1) % 4 := by
  cases direction <;> rfl

theorem ofName?_name (direction : Direction) : ofName? direction.name = some direction := by
  cases direction <;> decide

end Direction

end Tabletop
