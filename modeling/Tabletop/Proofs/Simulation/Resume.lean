import Tabletop.Proofs.Source.Reading
import Tabletop.Simulation

/-!
# Interrupted runs

A run takes one line after the other, and each is done with before the next is asked for
(`run_of_line`). A list that fails in place of a line therefore leaves a simulation that has been
fed the lines before it and nothing else (`run_ofLines`). The simulation goes on where it was left:
what it does with the other lines, put behind what it did before, is what one run over all lines
does, with the numbers of the lines, the figures, the reports and the records
(`run_of_failing_list`).
-/

set_option autoImplicit false

namespace Tabletop

namespace Simulation

variable {simulation : Simulation} {source after : Source} {line : String} {lines : List String}
  {failure : ReadFailure}

/-! ## One line of a source -/

/-- A line that is read is fed, and the run goes on behind it. -/
theorem run_of_line (h : source.next = (.ok (some line), after)) :
    simulation.run source =
      let fed := simulation.feed line
      let rest := fed.after.run after
      ⟨.behind fed rest.trail, rest.failure, rest.source⟩ := by
  simp only [run_eq, Source.readAll_eq source, Source.exhausted_eq source, h, feedAll]

/-- At the end of a source the run ends well. -/
theorem run_of_end (h : source.next = (.ok none, after)) :
    simulation.run source = ⟨⟨simulation, [], [], []⟩, none, after.close⟩ := by
  simp only [run_eq, Source.readAll_eq source, Source.exhausted_eq source, h, feedAll]

/-- A failure of the source ends the run and leaves the simulation as it is. -/
theorem run_of_failure (h : source.next = (.error failure, after)) :
    simulation.run source = ⟨⟨simulation, [], [], []⟩, some failure, after.close⟩ := by
  simp only [run_eq, Source.readAll_eq source, Source.exhausted_eq source, h, feedAll]

/-! ## Whole sources -/

/-- A source that is read without a failure is run by feeding its lines. -/
theorem run_of_readAll (simulation : Simulation) (h : source.readAll = ⟨lines, none⟩) :
    (simulation.run source).trail = simulation.feedAll lines ∧
      (simulation.run source).failure = none := by
  simp only [run_eq, h, and_self]

/-- A run over a list that fails has been fed the lines before the failure, or all of them where the
failure would come later. -/
theorem run_ofLines (simulation : Simulation) (lines : List String) (count : Nat) (words : String) :
    (simulation.run (.ofLines lines (some (count, words)))).trail =
        simulation.feedAll (lines.take count) ∧
      (simulation.run (.ofLines lines (some (count, words)))).failure =
        if count ≤ lines.length then some (.device words) else none := by
  induction count generalizing simulation lines with
  | zero =>
    rw [run_of_failure (Source.next_ofLines_zero lines words)]
    exact ⟨rfl, rfl⟩
  | succ count ih =>
    cases lines with
    | nil =>
      rw [run_of_end (Source.next_ofLines_nil count words)]
      exact ⟨rfl, rfl⟩
    | cons line lines =>
      -- the line that is read takes one off the lines before the failure
      obtain ⟨htrail, hfailure⟩ := ih (simulation.feed line).after lines
      rw [run_of_line (Source.next_ofLines_cons line lines count words)]
      simp only [htrail, hfailure]
      refine ⟨rfl, ?_⟩
      simp only [List.length_cons, Nat.add_le_add_iff_right]

end Simulation

/-- A list that fails in place of a line ends a run there, and only there: all that the run leaves
behind is what the lines before the failure do, and the source is closed as after any run. With any
source that gives the other lines the same simulation can be run on, and comes to what it would have
come to over the whole list: the same robot, figures and diagnostics, and the answers, the output
and the records of the two runs one after the other. -/
theorem run_of_failing_list (board : Board) (mode : Mode) (lines : List String) (count : Nat)
    (words : String) :
    let simulation := Simulation.new board mode
    let broken := simulation.run (.ofLines lines (some (count, words)))
    let whole := simulation.run (.ofLines lines none)
    (broken.failure = some (.device words) ↔ count ≤ lines.length) ∧
      (broken.failure = none ↔ lines.length < count) ∧
      broken.trail = simulation.feedAll (lines.take count) ∧
      (∀ (other : Simulation) (source : Source), (other.run source).source.isClosed = true) ∧
      ∀ rest : Source, rest.readAll = ⟨lines.drop count, none⟩ →
        let resumed := broken.trail.after.run rest
        resumed.failure = none ∧ whole.failure = none ∧
          whole.trail = ⟨resumed.trail.after, broken.trail.answers ++ resumed.trail.answers,
            broken.trail.output ++ resumed.trail.output,
            broken.trail.log ++ resumed.trail.log⟩ := by
  intro simulation broken whole
  obtain ⟨hbroken, hfailure⟩ := simulation.run_ofLines lines count words
  obtain ⟨hwhole, hend⟩ := simulation.run_of_readAll (Source.readAll_ofLines lines)
  refine ⟨?_, ?_, hbroken, ?_, ?_⟩
  · rw [hfailure]
    split <;> simp_all
  · rw [hfailure]
    split <;> simp_all
  · intro other source
    rw [Simulation.run_eq]
    exact source.isClosed_exhausted
  · intro rest hrest
    obtain ⟨hresumed, hresumedEnd⟩ := broken.trail.after.run_of_readAll hrest
    refine ⟨hresumedEnd, hend, ?_⟩
    have hlines := simulation.feedAll_append (lines.take count) (lines.drop count)
    rw [List.take_append_drop] at hlines
    rw [hresumed, hwhole, hbroken]
    exact hlines

/-- A script with two malformed lines. -/
def twoMalformed : List String :=
  ["PLACE 1,1,EAST", "JUMP", "MOVE", "HOP", "REPORT"]

/-- A run of it that is broken off before its third line goes on with a text that holds the
others: the second malformed line has the number that it has in the whole script. -/
theorem run_of_failing_list_resumed :
    let simulation := Simulation.new Board.standard .strict
    let broken := simulation.run (.ofLines twoMalformed (some (2, "disk on fire")))
    let resumed := broken.trail.after.run (.ofText "MOVE\nHOP\nREPORT" false)
    (Source.ofText "MOVE\nHOP\nREPORT" false).readAll = ⟨twoMalformed.drop 2, none⟩ ∧
      broken.failure = some (.device "disk on fire") ∧
      resumed.trail.after.diagnostics.map Diagnostic.lineNumber = [2, 4] ∧
      broken.trail.output ++ resumed.trail.output = ["2,1,EAST"] := by
  intro simulation broken resumed
  have hrest : (Source.ofText "MOVE\nHOP\nREPORT" false).readAll = ⟨twoMalformed.drop 2, none⟩ := by
    decide +kernel
  obtain ⟨hfailure, -, -, -, hresume⟩ :=
    run_of_failing_list Board.standard .strict twoMalformed 2 "disk on fire"
  obtain ⟨-, -, hwhole⟩ := hresume (.ofText "MOVE\nHOP\nREPORT" false) hrest
  have hnumbers : (simulation.run (.ofLines twoMalformed none)).trail.after.diagnostics.map
      Diagnostic.lineNumber = [2, 4] := by
    decide +kernel
  have hreports : (simulation.run (.ofLines twoMalformed none)).trail.output = ["2,1,EAST"] := by
    decide +kernel
  rw [hwhole] at hnumbers hreports
  exact ⟨hrest, hfailure.2 (by decide), hnumbers, hreports⟩

end Tabletop
