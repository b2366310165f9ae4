import Tabletop.Proofs.Check.Agreement
import Tabletop.Proofs.Simulation.Bookkeeping

/-!
# What a check finds

What a check has counted and noted at the end of a script is told by the lines alone: the malformed
lines are those that `notedAll` notes (`malformed_countLines`), and the other figures are about the
commands of the script (`valid_countLines`, `places_countLines`).

From these the result is known. It is a failure if there are malformed lines (`ok_result`), and
otherwise it may carry the one warning that a check knows (`mem_warnings_result_iff`).
-/

set_option autoImplicit false

namespace Tabletop

/-- The commands that stand on some lines, in order. -/
def commandsIn (mode : Mode) (lines : List String) : List Command :=
  lines.filterMap fun line => (parse mode line).toOption

theorem commandsIn_cons_of_error {mode : Mode} {line : String} {malformed : Malformed}
    (h : parse mode line = .error malformed) (lines : List String) :
    commandsIn mode (line :: lines) = commandsIn mode lines := by
  rw [commandsIn, List.filterMap_cons_none (by rw [h]; rfl), commandsIn]

theorem commandsIn_cons_of_ok {mode : Mode} {line : String} {command : Command}
    (h : parse mode line = .ok command) (lines : List String) :
    commandsIn mode (line :: lines) = command :: commandsIn mode lines := by
  rw [commandsIn, List.filterMap_cons_some (by rw [h]; rfl), commandsIn]

theorem commandsIn_cons (mode : Mode) (line : String) (lines : List String) :
    commandsIn mode (line :: lines) = commandsIn mode [line] ++ commandsIn mode lines := by
  rw [commandsIn, ← List.singleton_append, List.filterMap_append, commandsIn, commandsIn]

theorem mem_commandsIn_iff {mode : Mode} {lines : List String} {command : Command} :
    command ∈ commandsIn mode lines ↔ ∃ line ∈ lines, parse mode line = .ok command := by
  have hread (line : String) :
      (parse mode line).toOption = some command ↔ parse mode line = .ok command := by
    cases parse mode line <;> simp [Except.toOption]
  simp only [commandsIn, List.mem_filterMap, hread]

namespace Check

theorem run_ofLines (mode : Mode) (lines : List String) :
    (run mode (Source.ofLines lines none)).result =
      .ok (result mode (countLines mode {} lines).1) := by
  have hread := Source.readAll_ofLines lines
  rw [run_of_end mode (by rw [hread]), hread]

theorem result_of_run {mode : Mode} {source : Source} {result : Result}
    (h : (run mode source).result = .ok result) :
    result = Check.result mode (countLines mode {} source.readAll.lines).1 := by
  cases hfailure : source.readAll.failure with
  | none =>
    rw [run_of_end mode hfailure] at h
    exact (Except.ok.inj h).symm
  | some failure =>
    rw [run_of_failure mode hfailure] at h
    cases h

/-- A check finds the malformed lines that are noted of a script. -/
theorem malformed_countLines (mode : Mode) (lines : List String) :
    (countLines mode {} lines).1.malformed = notedAll mode lines := by
  -- the board does not matter for what is noted
  obtain ⟨hagrees, -⟩ := (Agrees.new Board.standard mode).countLines lines
  have haccounts := (Simulation.Accounts.new Board.standard mode).feedAll lines
  have hmode := Simulation.mode_feedAll (Simulation.new Board.standard mode) lines
  have hdiagnostics := haccounts.diagnostics
  rw [hmode, List.nil_append] at hdiagnostics
  exact hagrees.malformed.trans hdiagnostics

/-- More lines add their commands to those that were counted. -/
theorem counts_countLines (mode : Mode) (tally : Tally) (lines : List String) :
    (countLines mode tally lines).1.valid = tally.valid + (commandsIn mode lines).length ∧
      (countLines mode tally lines).1.places =
        tally.places + (commandsIn mode lines).countP Command.isPlace := by
  induction lines generalizing tally with
  | nil => exact ⟨rfl, rfl⟩
  | cons line lines ih =>
    obtain ⟨hvalid, hplaces⟩ := ih (countLine mode tally line).1
    rw [countLines]
    cases hblank : isBlankLine line with
    | true =>
      rw [commandsIn_cons_of_error (parse_of_isBlankLine hblank)]
      rw [countLine_of_isBlankLine mode tally hblank] at hvalid hplaces ⊢
      exact ⟨hvalid, hplaces⟩
    | false =>
      cases hparse : parse mode line with
      | error malformed =>
        rw [commandsIn_cons_of_error hparse]
        rw [countLine_of_malformed tally hblank hparse] at hvalid hplaces ⊢
        exact ⟨hvalid, hplaces⟩
      | ok command =>
        rw [commandsIn_cons_of_ok hparse, List.length_cons, List.countP_cons]
        rw [countLine_of_command tally hparse] at hvalid hplaces ⊢
        dsimp only at hvalid hplaces ⊢
        refine ⟨by omega, ?_⟩
        cases hplace : command.isPlace with
        | false =>
          simp only [hplace, Bool.false_eq_true, if_false] at hplaces ⊢
          exact hplaces
        | true =>
          simp only [hplace, if_true] at hplaces ⊢
          omega

theorem valid_countLines (mode : Mode) (lines : List String) :
    (countLines mode {} lines).1.valid = (commandsIn mode lines).length := by
  rw [(counts_countLines mode {} lines).1, Nat.zero_add]

theorem places_countLines (mode : Mode) (lines : List String) :
    (countLines mode {} lines).1.places = (commandsIn mode lines).countP Command.isPlace := by
  rw [(counts_countLines mode {} lines).2, Nat.zero_add]

theorem data_result (mode : Mode) (tally : Tally) : (result mode tally).data = figures tally := by
  unfold result
  dsimp only
  split <;> rfl

theorem ok_result (mode : Mode) (tally : Tally) :
    (result mode tally).ok = tally.malformed.isEmpty := by
  unfold result
  dsimp only
  split
  · rename_i hempty
    exact hempty.symm
  · rename_i hsome
    exact (Bool.eq_false_iff.2 hsome).symm

/-- The warning is for scripts without a fault that hold commands, but none that places the
robot. -/
theorem mem_warnings_result_iff {mode : Mode} {tally : Tally} :
    noPlaceWarning ∈ (result mode tally).warnings ↔
      tally.malformed = [] ∧ tally.valid ≠ 0 ∧ tally.places = 0 := by
  unfold result
  dsimp only
  split
  · rename_i hempty
    have hnone : tally.malformed = [] := List.isEmpty_iff.1 hempty
    by_cases hwarned : tally.valid ≠ 0 ∧ tally.places = 0
    · rw [if_pos hwarned]
      exact iff_of_true List.mem_cons_self ⟨hnone, hwarned⟩
    · rw [if_neg hwarned]
      exact iff_of_false List.not_mem_nil fun h => hwarned h.2
  · rename_i hsome
    have hmalformed : tally.malformed ≠ [] := fun hnone => hsome (List.isEmpty_iff.2 hnone)
    simp [Result.failure, hmalformed]

end Check

end Tabletop
