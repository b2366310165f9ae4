import Tabletop.Proofs.Simulation.Feed

/-!
# The robot stays on the board

A robot is `Legal` if it is as new or stands on a square of its board. Every command keeps that
(`Legal.obey`), no command takes a placed robot off (`Robot.onBoard_obey`), and a robot reports
nothing but its own square (`Robot.obey_reported`). So it holds after any lines whatsoever, and
every report is the text of a square.
-/

set_option autoImplicit false

namespace Tabletop

namespace Robot

/-- A robot on a board as commands can leave it. -/
structure Legal (board : Board) (robot : Robot) : Prop where
  board_eq : robot.board = board
  onBoard : robot.OnBoard
  pristine : robot.onBoard = false → robot = Robot.new board

theorem Legal.new (board : Board) : Legal board (Robot.new board) where
  board_eq := rfl
  onBoard := OnBoard.new board
  pristine _ := rfl

/-- A placed robot is placed after any command. -/
theorem onBoard_obey {robot : Robot} (h : robot.onBoard = true) (command : Command) :
    (robot.obey command).1.onBoard = true := by
  cases command with
  | place x y direction =>
    simp only [obey, place?]
    split
    · rfl
    · exact h
  | move =>
    simp only [obey, move?]
    split
    · exact h
    · exact h
  | left =>
    simp only [obey, left?, if_pos h]
    exact h
  | right =>
    simp only [obey, right?, if_pos h]
    exact h
  | report =>
    simp only [obey]
    split
    · exact h
    · exact h

/-- A command that leaves a robot unplaced changes nothing. -/
theorem obey_eq_self_of_unplaced {robot : Robot} {command : Command}
    (h : (robot.obey command).1.onBoard = false) : (robot.obey command).1 = robot := by
  -- were the robot placed before the command, it would still be
  have hbefore : robot.onBoard = false := by
    cases hon : robot.onBoard with
    | false => rfl
    | true =>
      rw [onBoard_obey hon] at h
      cases h
  cases command with
  | place x y direction =>
    simp only [obey, place?] at h ⊢
    split
    · rename_i hcontains
      rw [if_pos hcontains] at h
      cases h
    · rfl
  | move => simp [obey, move?, hbefore, settle]
  | left => simp [obey, left?, hbefore, settle]
  | right => simp [obey, right?, hbefore, settle]
  | report =>
    simp only [obey]
    split
    · rfl
    · rfl

theorem Legal.obey {board : Board} {robot : Robot} (h : Legal board robot) (command : Command) :
    Legal board (robot.obey command).1 where
  board_eq := by rw [board_obey, h.board_eq]
  onBoard := h.onBoard.obey command
  pristine hafter := by
    have hsame := obey_eq_self_of_unplaced hafter
    rw [hsame] at hafter ⊢
    exact h.pristine hafter

/-- Only a placed robot reports, and it reports the square that it stands on. -/
theorem obey_reported {robot : Robot} {command : Command} {text : String}
    (h : (robot.obey command).2 = .reported text) :
    robot.onBoard = true ∧ text = positionText robot.x robot.y robot.direction := by
  -- the commands that may change the robot answer with done or refused only
  have hsettle : ∀ after : Option Robot, (robot.settle after).2 ≠ .reported text := by
    intro after
    cases after with
    | none => exact Response.noConfusion
    | some moved => exact Response.noConfusion
  cases command with
  | place x y direction => exact absurd h (hsettle _)
  | move => exact absurd h (hsettle _)
  | left => exact absurd h (hsettle _)
  | right => exact absurd h (hsettle _)
  | report =>
    cases hon : robot.onBoard with
    | false => simp [obey, report?, position?, hon] at h
    | true =>
      simp only [obey, report?, position?, hon, if_true, Option.map_some,
        Response.reported.injEq] at h
      exact ⟨rfl, h.symm⟩

/-- A legal placed robot stands on a square of the board. -/
theorem Legal.bounds {board : Board} {robot : Robot} (h : Legal board robot)
    (hon : robot.onBoard = true) :
    (0 ≤ robot.x ∧ robot.x < board.width) ∧ (0 ≤ robot.y ∧ robot.y < board.height) := by
  have hcontains := h.onBoard hon
  rw [h.board_eq] at hcontains
  exact Board.contains_iff.1 hcontains

end Robot

/-- The text of a square of a board and a direction, in decimal digits. -/
def Board.IsSquareText (board : Board) (text : String) : Prop :=
  ∃ (x y : Nat) (direction : Direction), (x : Int) < board.width ∧ (y : Int) < board.height ∧
    text = toString x ++ "," ++ toString y ++ "," ++ direction.name

theorem Board.isSquareText_positionText {board : Board} {x y : Int} (direction : Direction)
    (hx : 0 ≤ x ∧ x < board.width) (hy : 0 ≤ y ∧ y < board.height) :
    board.IsSquareText (positionText x y direction) := by
  obtain ⟨n, rfl⟩ := Int.eq_ofNat_of_zero_le hx.1
  obtain ⟨m, rfl⟩ := Int.eq_ofNat_of_zero_le hy.1
  exact ⟨n, m, direction, hx.2, hy.2, rfl⟩

namespace Simulation

theorem legal_feed {board : Board} (simulation : Simulation) (line : String)
    (h : simulation.robot.Legal board) : (simulation.feed line).after.robot.Legal board :=
  simulation.robot_invariant_feed (fun _ command hlegal => hlegal.obey command) line h

theorem onBoard_feed (simulation : Simulation) (line : String)
    (h : simulation.robot.onBoard = true) : (simulation.feed line).after.robot.onBoard = true :=
  simulation.robot_invariant_feed (P := fun robot => robot.onBoard = true)
    (fun _ command hon => Robot.onBoard_obey hon command) line h

theorem isSquareText_of_mem_report {board : Board} (simulation : Simulation) (line : String)
    (h : simulation.robot.Legal board) :
    ∀ text ∈ (simulation.feed line).report, board.IsSquareText text := by
  intro text htext
  rcases simulation.robot_feed_cases line with ⟨-, hreport⟩ | ⟨command, -, hreport⟩
  · rw [hreport] at htext
    cases htext
  · rw [hreport] at htext
    cases hresponse : (simulation.robot.obey command).2 with
    | done =>
      rw [hresponse] at htext
      cases htext
    | refused =>
      rw [hresponse] at htext
      cases htext
    | reported found =>
      rw [hresponse] at htext
      obtain rfl : found = text := Option.some.inj htext
      obtain ⟨hon, rfl⟩ := Robot.obey_reported hresponse
      exact Board.isSquareText_positionText _ (h.bounds hon).1 (h.bounds hon).2

end Simulation

/-- A robot that is driven by any lines stays on its board. After each of them it stands on a square
or is as new; once placed it stays placed; its board is the one it got; and every report is the text
of a square of that board. -/
theorem feedAll_stays_on_board (board : Board) (mode : Mode) (lines : List String) :
    let trail := (Simulation.new board mode).feedAll lines
    trail.after.robot.board = board ∧
      (trail.after.robot.onBoard = true →
        (0 ≤ trail.after.robot.x ∧ trail.after.robot.x < board.width) ∧
          (0 ≤ trail.after.robot.y ∧ trail.after.robot.y < board.height)) ∧
      (trail.after.robot.onBoard = false →
        trail.after.robot.x = 0 ∧ trail.after.robot.y = 0 ∧
          trail.after.robot.direction = .north) ∧
      (trail.after.robot.onBoard = true → ∀ more : List String,
        ((Simulation.new board mode).feedAll (lines ++ more)).after.robot.onBoard = true) ∧
      ∀ text ∈ trail.output, board.IsSquareText text := by
  intro trail
  have hnew : (Simulation.new board mode).robot.Legal board := Robot.Legal.new board
  have hlegal : trail.after.robot.Legal board :=
    Simulation.feedAll_invariant Simulation.legal_feed hnew lines
  refine ⟨hlegal.board_eq, hlegal.bounds, ?_, ?_, ?_⟩
  · intro hoff
    rw [hlegal.pristine hoff]
    exact ⟨rfl, rfl, rfl⟩
  · intro hon more
    rw [Simulation.feedAll_append]
    exact Simulation.feedAll_invariant Simulation.onBoard_feed hon more
  · exact Simulation.forall_mem_output_feedAll Simulation.legal_feed
      Simulation.isSquareText_of_mem_report hnew lines

/-- A robot in a corner that is told to leave the board, and one that was never placed. -/
theorem feedAll_stays_on_board_corner :
    let corner := (Simulation.new Board.standard .strict).feedAll ["PLACE 4,4,NORTH", "MOVE"]
    let unplaced := (Simulation.new Board.standard .lenient).feedAll ["PLACE 5,-1,EAST", "LEFT"]
    (corner.after.robot.onBoard = true ∧ corner.after.robot.y < 5) ∧
      unplaced.after.robot.onBoard = false ∧ unplaced.after.robot.direction = .north := by
  refine ⟨⟨rfl, ?_⟩, rfl, ?_⟩
  · exact ((feedAll_stays_on_board Board.standard .strict ["PLACE 4,4,NORTH", "MOVE"]).2.1 rfl).2.2
  · exact ((feedAll_stays_on_board Board.standard .lenient
      ["PLACE 5,-1,EAST", "LEFT"]).2.2.1 rfl).2.2

end Tabletop
