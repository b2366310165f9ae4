import Mathlib.Data.List.Count
import Tabletop.Proofs.Robot.Course
import Tabletop.Proofs.Robot.Refinement
import Tabletop.Proofs.Robot.Refusal
import Tabletop.Proofs.Simulation.Bounds

/-!
# The heading of a robot

As long as no placement is accepted, only turns change the direction of a placed robot, each by one
place in the clockwise order (`index_obey`). So the direction after some commands is told by the
number of turns each way (`index_obeyAll`): neither the other commands nor the order of the turns
make a difference to it.
-/

set_option autoImplicit false

namespace Tabletop

/-- A turn to either side. -/
def Command.isTurn : Command → Bool
  | .left | .right => true
  | _ => false

/-- The number of turns to the right less that of turns to the left. -/
def netTurns (commands : List Command) : Int :=
  commands.count .right - commands.count .left

theorem netTurns_cons (command : Command) (commands : List Command) :
    netTurns (command :: commands) = netTurns [command] + netTurns commands := by
  simp only [netTurns, List.count_cons, List.count_nil]
  omega

theorem netTurns_append (commands others : List Command) :
    netTurns (commands ++ others) = netTurns commands + netTurns others := by
  simp only [netTurns, List.count_append]
  omega

/-- Only turns count. -/
theorem netTurns_filter_isTurn (commands : List Command) :
    netTurns (commands.filter Command.isTurn) = netTurns commands := by
  rw [netTurns, List.count_filter rfl, List.count_filter rfl, netTurns]

theorem netTurns_of_perm {commands others : List Command}
    (h : (others.filter Command.isTurn).Perm (commands.filter Command.isTurn)) :
    netTurns others = netTurns commands := by
  calc netTurns others
      = netTurns (others.filter Command.isTurn) := (netTurns_filter_isTurn others).symm
    _ = netTurns (commands.filter Command.isTurn) := by
        rw [netTurns, h.count_eq, h.count_eq, netTurns]
    _ = netTurns commands := netTurns_filter_isTurn commands

namespace Direction

theorem index_lt (direction : Direction) : direction.index < 4 := by
  cases direction <;> decide

theorem getElem?_clockwise (direction : Direction) :
    clockwise[direction.index]? = some direction := by
  cases direction <;> rfl

theorem eq_of_index_eq {first second : Direction} (h : first.index = second.index) :
    first = second := by
  have hsame := first.getElem?_clockwise
  rw [h, second.getElem?_clockwise] at hsame
  exact (Option.some.inj hsame).symm

end Direction

namespace Robot

/-- No placement among some commands is accepted when a robot is given them. -/
def RefusesPlaces (robot : Robot) (commands : List Command) : Prop :=
  ∀ answered ∈ commands.zip (robot.obeyAll commands).responses,
    answered.1.isPlace = true → answered.2 = .refused

theorem refusesPlaces_cons_iff {robot : Robot} {command : Command} {commands : List Command} :
    robot.RefusesPlaces (command :: commands) ↔
      (command.isPlace = true → (robot.obey command).2 = .refused) ∧
        (robot.obey command).1.RefusesPlaces commands := by
  rw [RefusesPlaces, obeyAll_cons, List.zip_cons_cons, List.forall_mem_cons]
  rfl

theorem refusesPlaces_of_isTurn {commands : List Command}
    (h : ∀ command ∈ commands, command.isTurn = true) (robot : Robot) :
    robot.RefusesPlaces commands := by
  rintro ⟨command, response⟩ hmem hplace
  have hturn := h command (List.of_mem_zip hmem).1
  cases command <;> simp_all [Command.isTurn, Command.isPlace]

/-- A command that is no turn leaves the direction as it is, if it does not place the robot. -/
theorem direction_obey_of_not_isTurn {robot : Robot} {command : Command}
    (hturn : command.isTurn = false)
    (hplace : command.isPlace = true → (robot.obey command).2 = .refused) :
    (robot.obey command).1.direction = robot.direction := by
  cases command with
  | place x y direction => rw [obey_of_refuses (refuses_iff.2 (hplace rfl))]
  | move =>
    simp only [obey, move?]
    split <;> rfl
  | left => cases hturn
  | right => cases hturn
  | report =>
    simp only [obey]
    split <;> rfl

section

variable {robot : Robot} (hon : robot.onBoard = true)
include hon

/-- A command turns the robot by as many places as it is net turns, if it does not place it. -/
theorem index_obey {command : Command}
    (hplace : command.isPlace = true → (robot.obey command).2 = .refused) :
    ((robot.obey command).1.direction.index : Int) =
      (robot.direction.index + netTurns [command]) % 4 := by
  cases hturn : command.isTurn with
  | false =>
    have hlt := robot.direction.index_lt
    have hnone : netTurns [command] = 0 := by
      rw [← netTurns_filter_isTurn, List.filter_cons_of_neg (by simp [hturn])]
      rfl
    rw [direction_obey_of_not_isTurn hturn hplace, hnone]
    omega
  | true =>
    cases command with
    | left =>
      have hleft : (robot.obey .left).1.direction = robot.direction.left := by
        simp only [obey, left?, hon, if_true, settle]
      have hone : netTurns [.left] = -1 := rfl
      rw [hleft, Machine.index_left, hone]
      omega
    | right =>
      have hright : (robot.obey .right).1.direction = robot.direction.right := by
        simp only [obey, right?, hon, if_true, settle]
      have hone : netTurns [.right] = 1 := rfl
      rw [hright, Direction.turn_eq_index, hone]
      omega
    | place x y direction => cases hturn
    | move => cases hturn
    | report => cases hturn

theorem index_obeyAll {commands : List Command} (h : robot.RefusesPlaces commands) :
    ((robot.obeyAll commands).after.direction.index : Int) =
      (robot.direction.index + netTurns commands) % 4 := by
  induction commands generalizing robot with
  | nil =>
    have hlt := robot.direction.index_lt
    show (robot.direction.index : Int) = (robot.direction.index + 0) % 4
    omega
  | cons command commands ih =>
    obtain ⟨hplace, hlater⟩ := refusesPlaces_cons_iff.1 h
    rw [after_obeyAll_cons, ih (onBoard_obey hon command) hlater, index_obey hon hplace,
      netTurns_cons command commands]
    omega

/-- Commands with the same net turns leave the robot with the same direction. -/
theorem direction_obeyAll_congr {commands others : List Command}
    (h : robot.RefusesPlaces commands) (h' : robot.RefusesPlaces others)
    (hturns : netTurns others = netTurns commands) :
    (robot.obeyAll others).after.direction = (robot.obeyAll commands).after.direction := by
  apply Direction.eq_of_index_eq
  have hfirst := index_obeyAll hon h
  have hsecond := index_obeyAll hon h'
  rw [hturns] at hsecond
  omega

/-- Commands whose net turns go round some times leave the robot with the direction it had. -/
theorem direction_obeyAll_of_dvd {commands : List Command} (h : robot.RefusesPlaces commands)
    (hround : 4 ∣ netTurns commands) :
    (robot.obeyAll commands).after.direction = robot.direction := by
  apply Direction.eq_of_index_eq
  have hlt := robot.direction.index_lt
  have hindex := index_obeyAll hon h
  omega

end

end Robot

/-- The direction of a placed robot after any commands, if none of the placements among them is
accepted, is that many places on in the clockwise order as there are turns to the right, and that
many back as there are turns to the left. The turns alone lead to the same direction, and so do any
other such commands with the same turns in another order. Turns that are as many to the right as to
the left bring back the first direction, and so do any turns made four times over. -/
theorem heading_of_net_turns (robot : Robot) (hon : robot.onBoard = true) (commands : List Command)
    (h : robot.RefusesPlaces commands) :
    let final := (robot.obeyAll commands).after.direction
    let place : Int :=
      (robot.direction.index + commands.count .right - commands.count .left) % 4
    Direction.clockwise[place.toNat]? = some final ∧
      (robot.obeyAll (commands.filter Command.isTurn)).after.direction = final ∧
      (∀ others, robot.RefusesPlaces others →
        (others.filter Command.isTurn).Perm (commands.filter Command.isTurn) →
        (robot.obeyAll others).after.direction = final) ∧
      ∀ turns : List Command, (∀ turn ∈ turns, turn.isTurn = true) →
        (turns.count .right = turns.count .left →
          (robot.obeyAll turns).after.direction = robot.direction) ∧
        (robot.obeyAll (turns ++ turns ++ turns ++ turns)).after.direction = robot.direction := by
  intro final place
  refine ⟨?_, ?_, ?_, ?_⟩
  · have hindex : (final.index : Int) = place := by
      have hfinal := Robot.index_obeyAll hon h
      rwa [netTurns, ← Int.add_sub_assoc] at hfinal
    rw [← hindex, Int.toNat_natCast]
    exact final.getElem?_clockwise
  · have hturns : robot.RefusesPlaces (commands.filter Command.isTurn) :=
      Robot.refusesPlaces_of_isTurn (fun _ hmem => (List.mem_filter.1 hmem).2) robot
    exact Robot.direction_obeyAll_congr hon h hturns (netTurns_filter_isTurn commands)
  · intro others hothers hperm
    exact Robot.direction_obeyAll_congr hon h hothers (netTurns_of_perm hperm)
  · intro turns hturns
    constructor
    · intro hbalance
      apply Robot.direction_obeyAll_of_dvd hon (Robot.refusesPlaces_of_isTurn hturns robot)
      rw [netTurns, hbalance, Int.sub_self]
      exact Int.dvd_zero 4
    · have hall : ∀ turn ∈ turns ++ turns ++ turns ++ turns, turn.isTurn = true := by
        intro turn hturn
        apply hturns
        simpa using hturn
      apply Robot.direction_obeyAll_of_dvd hon (Robot.refusesPlaces_of_isTurn hall robot)
      simp only [netTurns_append]
      omega

/-- A robot in a corner that is turned both ways, moves off the board and along its edge, and
refuses a placement. -/
theorem heading_of_net_turns_corner :
    let robot : Robot := ⟨Board.standard, 0, 0, .south, true⟩
    let commands : List Command :=
      [.move, .left, .place 5 0 .north, .left, .report, .left, .move, .right]
    robot.onBoard = true ∧ robot.RefusesPlaces commands ∧
      Direction.clockwise[((2 + 1 - 3 : Int) % 4).toNat]? =
        some (robot.obeyAll commands).after.direction ∧
      (robot.obeyAll [.right, .left, .left, .left]).after.direction =
        (robot.obeyAll commands).after.direction := by
  intro robot commands
  have hrefuses : robot.RefusesPlaces commands := by
    unfold Robot.RefusesPlaces
    decide
  obtain ⟨hplace, -, hothers, -⟩ := heading_of_net_turns robot rfl commands hrefuses
  refine ⟨rfl, hrefuses, hplace, hothers _ ?_ (by decide)⟩
  exact Robot.refusesPlaces_of_isTurn (by decide) robot

end Tabletop
