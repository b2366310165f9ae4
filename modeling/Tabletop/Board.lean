/-!
# Boards

A board is a rectangle of squares with its origin at `(0, 0)`. Its two sides are positive, which
the type holds, so that every board has a square.

`contains_iff` is the one rule that decides whether a square is on the board.
-/

set_option autoImplicit false

namespace Tabletop

/-- The two sides of a board. -/
structure Board where
  width : Int
  height : Int
  width_pos : 0 < width := by decide
  height_pos : 0 < height := by decide
  deriving DecidableEq, Repr

namespace Board

/-- The width where none is given. -/
def defaultWidth : Int := 5

/-- The height where none is given. -/
def defaultHeight : Int := 5

theorem defaultWidth_pos : 0 < defaultWidth := by
  decide

theorem defaultHeight_pos : 0 < defaultHeight := by
  decide

/-- The board that is used where nothing else is asked for. -/
def standard : Board where
  width := defaultWidth
  height := defaultHeight
  width_pos := defaultWidth_pos
  height_pos := defaultHeight_pos

/-- Whether a square is on the board. -/
def contains (board : Board) (x y : Int) : Bool :=
  0 ≤ x && x < board.width && 0 ≤ y && y < board.height

theorem contains_iff {board : Board} {x y : Int} :
    board.contains x y = true ↔ (0 ≤ x ∧ x < board.width) ∧ (0 ≤ y ∧ y < board.height) := by
  simp [contains, and_assoc]

end Board

end Tabletop
