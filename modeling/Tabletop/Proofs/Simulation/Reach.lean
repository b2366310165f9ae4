import Tabletop.Proofs.Command.Canonical
import Tabletop.Proofs.Simulation.Bounds

/-!
# How far lines take a robot

A placement that is read from a line has at most ten digits in each coordinate, and every other
command takes a robot no more than one square on. So a robot stays within `10 ^ 10` squares and one
more for each line (`WithinReach.feed`). That is far below any limit for the digits of integers, and
what a robot reports of itself is therefore what is written of its position under that limit
(`forall_mem_output_formatted`), unless it was driven by some `10 ^ 640` lines.
-/

set_option autoImplicit false

namespace Tabletop

theorem Direction.natAbs_step_le (direction : Direction) :
    direction.step.1.natAbs ≤ 1 ∧ direction.step.2.natAbs ≤ 1 := by
  cases direction <;> decide

/-- Both coordinates of a robot are below a bound. -/
def Robot.Within (bound : Nat) (robot : Robot) : Prop :=
  robot.x.natAbs < bound ∧ robot.y.natAbs < bound

/-- A command raises the bound by one if it does not place the robot beyond it. -/
theorem Robot.Within.obey {bound : Nat} {robot : Robot} (h : robot.Within bound)
    {command : Command}
    (hplace : ∀ x y direction, command = .place x y direction →
      x.natAbs < bound ∧ y.natAbs < bound) :
    (robot.obey command).1.Within (bound + 1) := by
  have hstays : robot.Within (bound + 1) := ⟨Nat.lt_succ_of_lt h.1, Nat.lt_succ_of_lt h.2⟩
  cases command with
  | place x y direction =>
    obtain ⟨hx, hy⟩ := hplace x y direction rfl
    simp only [Robot.obey, place?]
    split
    · exact ⟨Nat.lt_succ_of_lt hx, Nat.lt_succ_of_lt hy⟩
    · exact hstays
  | move =>
    obtain ⟨hx, hy⟩ := robot.direction.natAbs_step_le
    simp only [Robot.obey, move?]
    split
    · constructor
      · exact Nat.lt_of_le_of_lt (Int.natAbs_add_le _ _) (Nat.add_lt_add_of_lt_of_le h.1 hx)
      · exact Nat.lt_of_le_of_lt (Int.natAbs_add_le _ _) (Nat.add_lt_add_of_lt_of_le h.2 hy)
    · exact hstays
  | left =>
    simp only [Robot.obey, left?]
    split <;> exact hstays
  | right =>
    simp only [Robot.obey, right?]
    split <;> exact hstays
  | report =>
    simp only [Robot.obey]
    split <;> exact hstays

namespace Simulation

/-- The robot is no farther than ten digits and the lines so far can take it. -/
def WithinReach (simulation : Simulation) : Prop :=
  simulation.robot.Within (10 ^ 10 + simulation.summary.lines)

theorem withinReach_new (board : Board) (mode : Mode) : (new board mode).WithinReach := by
  have hpos (lines : Nat) : 0 < 10 ^ 10 + lines := Nat.add_pos_left (Nat.pow_pos (by decide)) lines
  exact ⟨hpos _, hpos _⟩

theorem lines_feed (simulation : Simulation) (line : String) :
    (simulation.feed line).after.summary.lines = simulation.summary.lines + 1 := by
  rcases simulation.feed_cases line with ⟨-, h⟩ | ⟨malformed, -, -, h⟩ | ⟨command, -, h⟩
  · rw [h]
    rfl
  · rw [h]
    rfl
  · rw [h]
    rfl

theorem WithinReach.feed {simulation : Simulation} (h : simulation.WithinReach) (line : String) :
    (simulation.feed line).after.WithinReach := by
  have hstays : simulation.robot.Within (10 ^ 10 + simulation.summary.lines + 1) :=
    ⟨Nat.lt_succ_of_lt h.1, Nat.lt_succ_of_lt h.2⟩
  rw [WithinReach, lines_feed]
  rcases simulation.feed_cases line with ⟨-, hfeed⟩ | ⟨malformed, -, -, hfeed⟩ |
    ⟨command, hparse, hfeed⟩
  · rw [hfeed]
    exact hstays
  · rw [hfeed]
    exact hstays
  · rw [hfeed]
    apply h.obey
    rintro x y direction rfl
    obtain ⟨hx, hy⟩ := natAbs_lt_of_parse hparse
    exact ⟨Nat.lt_add_right _ hx, Nat.lt_add_right _ hy⟩

/-- What a line is answered with is a position as it is written under any limit. -/
theorem WithinReach.formatted {simulation : Simulation} (h : simulation.WithinReach)
    (limit : DigitLimit) (hfew : 10 ^ 10 + simulation.summary.lines ≤ 10 ^ leastDigitLimit)
    (line : String) :
    ∀ text ∈ (simulation.feed line).report,
      ∃ x y direction, formatPosition limit x y direction = .ok text := by
  intro text htext
  rcases simulation.robot_feed_cases line with ⟨-, hreport⟩ | ⟨command, -, hreport⟩
  · rw [hreport] at htext
    cases htext
  · rw [hreport] at htext
    cases hresponse : (simulation.robot.obey command).2 with
    | done =>
      rw [hresponse] at htext
      cases htext
    | refused =>
      rw [hresponse] at htext
      cases htext
    | reported found =>
      rw [hresponse] at htext
      obtain rfl : found = text := Option.some.inj htext
      obtain ⟨-, rfl⟩ := Robot.obey_reported hresponse
      have hx := limit.allows_of_natAbs_lt (Nat.lt_of_lt_of_le h.1 hfew)
      have hy := limit.allows_of_natAbs_lt (Nat.lt_of_lt_of_le h.2 hfew)
      exact ⟨_, _, _, formatPosition_eq_ok_iff.2 ⟨⟨hx, hy⟩, rfl⟩⟩

theorem WithinReach.formatted_all {simulation : Simulation} (h : simulation.WithinReach)
    (limit : DigitLimit) (lines : List String)
    (hfew : 10 ^ 10 + (simulation.summary.lines + lines.length) ≤ 10 ^ leastDigitLimit) :
    ∀ text ∈ (simulation.feedAll lines).output,
      ∃ x y direction, formatPosition limit x y direction = .ok text := by
  induction lines generalizing simulation with
  | nil => exact nofun
  | cons line lines ih =>
    rw [List.length_cons] at hfew
    intro text htext
    rw [feedAll, Trail.behind, List.mem_append, output_feed, Option.mem_toList] at htext
    rcases htext with htext | htext
    · exact h.formatted limit (by omega) line text htext
    · refine ih (h.feed line) ?_ text htext
      rw [lines_feed]
      omega

end Simulation

/-- Every report of a new simulation is a position as it is written under any limit for the digits
of integers, however many lines drive it short of `10 ^ 640`. -/
theorem forall_mem_output_formatted (limit : DigitLimit) (board : Board) (mode : Mode)
    (lines : List String) (hfew : 10 ^ 10 + lines.length ≤ 10 ^ leastDigitLimit) :
    ∀ text ∈ ((Simulation.new board mode).feedAll lines).output,
      ∃ x y direction, formatPosition limit x y direction = .ok text := by
  apply (Simulation.withinReach_new board mode).formatted_all limit lines
  have hlines : (Simulation.new board mode).summary.lines = 0 := rfl
  rwa [hlines, Nat.zero_add]

end Tabletop
