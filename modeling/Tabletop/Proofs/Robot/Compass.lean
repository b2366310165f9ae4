import Tabletop.Command

/-!
# The compass

What the directions mean on a board and in a report, as rules: the square that lies next to another
one in a direction (`Neighbour`), the name of a direction (`Direction.Named`), and the text of a
position, which is such a name behind two coordinates (`IsPositionText`). The steps that robots take
and the texts that they report follow these rules (`neighbour_iff`, `isPositionText_iff`).
-/

set_option autoImplicit false

namespace Tabletop

/-- The square next to another one in a direction: the first coordinate grows to the east, the
second to the north. -/
inductive Neighbour (x y : Int) : Direction → Int → Int → Prop where
  | north : Neighbour x y .north x (y + 1)
  | east : Neighbour x y .east (x + 1) y
  | south : Neighbour x y .south x (y - 1)
  | west : Neighbour x y .west (x - 1) y

theorem neighbour_step (x y : Int) (direction : Direction) :
    Neighbour x y direction (x + direction.step.1) (y + direction.step.2) := by
  cases direction with
  | north => simpa [Direction.step] using Neighbour.north (x := x) (y := y)
  | east => simpa [Direction.step] using Neighbour.east (x := x) (y := y)
  | south => simpa [Direction.step, Int.sub_eq_add_neg] using Neighbour.south (x := x) (y := y)
  | west => simpa [Direction.step, Int.sub_eq_add_neg] using Neighbour.west (x := x) (y := y)

/-- A step leads to the square next to the one before it, and nowhere else. -/
theorem neighbour_iff {x y x' y' : Int} {direction : Direction} :
    Neighbour x y direction x' y' ↔
      x' = x + direction.step.1 ∧ y' = y + direction.step.2 := by
  constructor
  · intro h
    cases h with
    | north => simp [Direction.step]
    | east => simp [Direction.step]
    | south => simp [Direction.step, Int.sub_eq_add_neg]
    | west => simp [Direction.step, Int.sub_eq_add_neg]
  · rintro ⟨rfl, rfl⟩
    exact neighbour_step x y direction

/-- The name of a direction. -/
inductive Direction.Named : Direction → String → Prop where
  | north : Direction.Named .north "NORTH"
  | east : Direction.Named .east "EAST"
  | south : Direction.Named .south "SOUTH"
  | west : Direction.Named .west "WEST"

/-- The text of a position: both coordinates as integers are written and the name of the direction,
with commas between them. -/
inductive IsPositionText (x y : Int) (direction : Direction) : String → Prop where
  | commas {name : String} : direction.Named name →
      IsPositionText x y direction (toString x ++ "," ++ toString y ++ "," ++ name)

theorem isPositionText_positionText (x y : Int) (direction : Direction) :
    IsPositionText x y direction (positionText x y direction) := by
  have hname : direction.Named direction.name := by
    cases direction with
    | north => exact .north
    | east => exact .east
    | south => exact .south
    | west => exact .west
  exact .commas hname

theorem isPositionText_iff {x y : Int} {direction : Direction} {text : String} :
    IsPositionText x y direction text ↔ text = positionText x y direction := by
  constructor
  · intro h
    cases h with
    | commas hname => cases hname <;> rfl
  · rintro rfl
    exact isPositionText_positionText x y direction

end Tabletop
