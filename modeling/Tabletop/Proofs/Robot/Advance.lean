import Tabletop.Proofs.Robot.Course

/-!
# Several moves in a row

A placed robot has `room` ahead of it: the squares between it and the edge of the board that it
faces. A move takes it one square on while there is room (`obey_move_of_room`) and is refused once
there is none (`obey_move_of_no_room`). So of several moves in a row the first ones are made, as
many as there is room for, and each of the others leaves a record that it was ignored.
-/

set_option autoImplicit false

namespace Tabletop

namespace Robot

/-- The number of squares between a robot and the edge that it faces. -/
def room (robot : Robot) : Nat :=
  match robot.direction with
  | .north => (robot.board.height - 1 - robot.y).toNat
  | .east => (robot.board.width - 1 - robot.x).toNat
  | .south => robot.y.toNat
  | .west => robot.x.toNat

/-- The robot some squares further on, the way it faces. -/
def advanced (robot : Robot) (squares : Nat) : Robot :=
  match robot.direction with
  | .north => { robot with y := robot.y + squares }
  | .east => { robot with x := robot.x + squares }
  | .south => { robot with y := robot.y - squares }
  | .west => { robot with x := robot.x - squares }

/-- A robot that stands on a square of its board. -/
structure Stands (robot : Robot) : Prop where
  onBoard : robot.onBoard = true
  x_nonneg : 0 ≤ robot.x
  x_lt : robot.x < robot.board.width
  y_nonneg : 0 ≤ robot.y
  y_lt : robot.y < robot.board.height

/-- The square that a move leads to. -/
theorem advanced_one (robot : Robot) :
    robot.advanced 1 =
      { robot with
        x := robot.x + robot.direction.step.1
        y := robot.y + robot.direction.step.2 } := by
  unfold advanced
  cases hdirection : robot.direction with
  | north => simp [Direction.step]
  | east => simp [Direction.step]
  | south => simp [Direction.step, Int.sub_eq_add_neg]
  | west => simp [Direction.step, Int.sub_eq_add_neg]

theorem advanced_zero (robot : Robot) : robot.advanced 0 = robot := by
  obtain ⟨board, x, y, direction, onBoard⟩ := robot
  cases direction <;> simp [advanced]

theorem advanced_succ (robot : Robot) (squares : Nat) :
    (robot.advanced 1).advanced squares = robot.advanced (squares + 1) := by
  obtain ⟨board, x, y, direction, onBoard⟩ := robot
  -- only one coordinate changes, and in it the two ways add up
  cases direction with
  | north => simp only [advanced, mk.injEq, and_true, true_and]; omega
  | east => simp only [advanced, mk.injEq, and_true, true_and]; omega
  | south => simp only [advanced, mk.injEq, and_true, true_and]; omega
  | west => simp only [advanced, mk.injEq, and_true, true_and]; omega

section

variable {robot : Robot} (h : robot.Stands)
include h

/-- There is a square ahead exactly if there is room. -/
theorem Stands.contains_ahead_iff :
    robot.board.contains (robot.x + robot.direction.step.1)
      (robot.y + robot.direction.step.2) = true ↔ 0 < robot.room := by
  obtain ⟨-, hx, hx', hy, hy'⟩ := h
  rw [Board.contains_iff, room]
  -- the edge that counts is another one for each direction
  cases robot.direction with
  | north => simp only [Direction.step]; omega
  | east => simp only [Direction.step]; omega
  | south => simp only [Direction.step]; omega
  | west => simp only [Direction.step]; omega

theorem Stands.obey_move_of_room (hroom : 0 < robot.room) :
    robot.obey .move = (robot.advanced 1, .done) := by
  have hmove : robot.move? = some (robot.advanced 1) := by
    simp only [move?, h.onBoard, h.contains_ahead_iff.2 hroom, Bool.and_self, if_true, advanced_one]
  rw [obey, hmove, settle]

theorem Stands.obey_move_of_no_room (hroom : robot.room = 0) :
    robot.obey .move = (robot, .refused) := by
  have hahead : robot.board.contains (robot.x + robot.direction.step.1)
      (robot.y + robot.direction.step.2) = false := by
    rw [← Bool.not_eq_true, h.contains_ahead_iff]
    omega
  have hmove : robot.move? = none := by
    simp only [move?, hahead, Bool.and_false, Bool.false_eq_true, if_false]
  rw [obey, hmove, settle]

theorem Stands.advanced_one (hroom : 0 < robot.room) : (robot.advanced 1).Stands := by
  obtain ⟨hx, hy⟩ := Board.contains_iff.1 (h.contains_ahead_iff.2 hroom)
  rw [Robot.advanced_one]
  exact ⟨h.onBoard, hx.1, hx.2, hy.1, hy.2⟩

end

/-- Each square that a robot goes leaves it less room. -/
theorem room_advanced_one (robot : Robot) : (robot.advanced 1).room = robot.room - 1 := by
  obtain ⟨board, x, y, direction, onBoard⟩ := robot
  cases direction with
  | north => simp only [advanced, room]; omega
  | east => simp only [advanced, room]; omega
  | south => simp only [advanced, room]; omega
  | west => simp only [advanced, room]; omega

end Robot

/-- A placed robot that is told to move some times goes as many squares as it is told, the way it
faces, but no further than to the edge of its board; nothing else about it changes. The moves up to
there are made, all further ones are refused, and each of these leaves a record that it was
ignored. -/
theorem obeyAll_moves (robot : Robot) (h : robot.Stands) (n : Nat) :
    robot.obeyAll (List.replicate n .move) =
      { after := robot.advanced (min n robot.room)
        responses :=
          List.replicate (min n robot.room) .done ++
            List.replicate (n - min n robot.room) .refused
        log :=
          List.replicate (n - min n robot.room)
            (Log.debug "robosim.services.dispatch" "Ignored move") } := by
  -- the robot goes on, so the induction is over the moves for all robots at once
  induction n generalizing robot with
  | zero => simp [Robot.advanced_zero]
  | succ n ih =>
    rw [List.replicate_succ, Robot.obeyAll_cons]
    rcases Nat.eq_zero_or_pos robot.room with hnone | hroom
    · rw [h.obey_move_of_no_room hnone, ih robot h, hnone, Nat.min_zero, Nat.min_zero]
      rfl
    · have hsteps : min (n + 1) robot.room = min n (robot.room - 1) + 1 := by omega
      have hleft : n + 1 - (min n (robot.room - 1) + 1) = n - min n (robot.room - 1) := by omega
      rw [h.obey_move_of_room hroom, ih _ (h.advanced_one hroom), Robot.room_advanced_one,
        Robot.advanced_succ, hsteps, hleft]
      rfl

/-- A robot two squares from the east edge of a board of four by three, told to move five times. -/
theorem obeyAll_moves_edge :
    let robot : Robot := ⟨⟨4, 3, by decide, by decide⟩, 1, 2, .east, true⟩
    robot.Stands ∧
      robot.obeyAll (List.replicate 5 .move) =
        { after := { robot with x := 3 }
          responses := [.done, .done, .refused, .refused, .refused]
          log := List.replicate 3 (Log.debug "robosim.services.dispatch" "Ignored move") } := by
  intro robot
  have h : robot.Stands := by constructor <;> decide
  exact ⟨h, obeyAll_moves robot h 5⟩

end Tabletop
