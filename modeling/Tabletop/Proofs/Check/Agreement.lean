import Tabletop.Check
import Tabletop.Proofs.Simulation.Feed
import Tabletop.Proofs.Source.Reading

/-!
# Checks and simulations agree

A check and a simulation count the lines of a script each on its own. `Check.Agrees` says that they
have found the same so far; one more line keeps it (`Agrees.countLine`), so any number of lines does
(`Agrees.countLines`). The records that the lines leave in the two logs are compared on the way: a
check leaves those about malformed lines, a simulation leaves the same and those about refused
commands among them.

`Check.Reports` is what the result of a check has to say of a script that a simulation has been
through.
-/

set_option autoImplicit false

namespace Tabletop

/-- How every record about a malformed line starts. -/
def Malformed.recordStart : String := "Unknown command has been given ["

/-- Whether a record is about a malformed line. -/
def Log.Record.isAboutMalformed (record : Log.Record) : Bool :=
  Malformed.recordStart.toList.isPrefixOf record.message.toList

/-- The record about a malformed line, from what was noted of the line. -/
def Diagnostic.record (diagnostic : Diagnostic) : Log.Record :=
  Log.debug Log.simulationLogger
    (Malformed.recordStart ++ diagnostic.line ++ "]: " ++ diagnostic.reason.text ++
      " (line " ++ toString diagnostic.lineNumber ++ ")")

/-! ## Records about malformed lines -/

theorem Diagnostic.isAboutMalformed_record (diagnostic : Diagnostic) :
    diagnostic.record.isAboutMalformed = true := by
  simp [record, Log.debug, Log.Record.isAboutMalformed, String.toList_append, List.append_assoc,
    List.isPrefixOf_iff_prefix]

theorem Malformed.record_eq (malformed : Malformed) (lineNumber : Nat) :
    malformed.record lineNumber = (malformed.at lineNumber).record :=
  rfl

theorem Command.isAboutMalformed_refusal (command : Command) :
    command.refusal.isAboutMalformed = false := by
  simp [refusal, Log.debug, Log.Record.isAboutMalformed, String.toList_append,
    Malformed.recordStart, List.isPrefixOf]

theorem Command.filter_record? (command : Command) (response : Response) :
    (command.record? response).toList.filter Log.Record.isAboutMalformed = [] := by
  unfold Command.record?
  split
  · simp [Command.isAboutMalformed_refusal]
  · rfl

namespace Check

theorem isAboutMalformed_summaryRecord (tally : Tally) :
    (summaryRecord tally).isAboutMalformed = false := by
  simp [summaryRecord, Log.debug, Log.Record.isAboutMalformed, String.toList_append,
    Malformed.recordStart, List.isPrefixOf]

/-! ## One line -/

theorem countLine_of_isBlankLine (mode : Mode) (tally : Tally) {line : String}
    (h : isBlankLine line = true) :
    countLine mode tally line =
      ({ tally with count := tally.count + 1, blank := tally.blank + 1 }, none) := by
  simp only [countLine, h, if_true]

theorem countLine_of_malformed {mode : Mode} (tally : Tally) {line : String}
    {malformed : Malformed} (hblank : isBlankLine line = false)
    (h : parse mode line = .error malformed) :
    countLine mode tally line =
      ({ tally with
          count := tally.count + 1
          malformed := tally.malformed ++ [malformed.at (tally.count + 1)] },
        some (malformed.record (tally.count + 1))) := by
  simp only [countLine, hblank, h, Bool.false_eq_true, if_false]

theorem countLine_of_command {mode : Mode} (tally : Tally) {line : String} {command : Command}
    (h : parse mode line = .ok command) :
    countLine mode tally line =
      ({ tally with
          count := tally.count + 1
          valid := tally.valid + 1
          places := if command.isPlace then tally.places + 1 else tally.places },
        none) := by
  have hblank : isBlankLine line = false := isBlankLine_of_parse_eq_ok h
  simp only [countLine, hblank, h, Bool.false_eq_true, if_false]

/-- A tally and a simulation that have found the same in the lines before. -/
structure Agrees (tally : Tally) (simulation : Simulation) : Prop where
  count : tally.count = simulation.summary.lines
  blank : tally.blank = simulation.summary.blank
  valid : tally.valid = simulation.summary.applied
  malformed : tally.malformed = simulation.diagnostics
  noted : simulation.summary.malformed = simulation.diagnostics.length
  balance : simulation.summary.lines =
    simulation.summary.applied + simulation.summary.blank + simulation.diagnostics.length

theorem Agrees.new (board : Board) (mode : Mode) : Agrees {} (Simulation.new board mode) where
  count := rfl
  blank := rfl
  valid := rfl
  malformed := rfl
  noted := rfl
  balance := rfl

section

variable {tally : Tally} {simulation : Simulation} (h : Agrees tally simulation)
include h

theorem Agrees.countLine (line : String) :
    Agrees (countLine simulation.mode tally line).1 (simulation.feed line).after := by
  rcases simulation.feed_cases line with ⟨hblank, hfeed⟩ | ⟨malformed, hblank, hparse, hfeed⟩ |
    ⟨command, hparse, hfeed⟩
  · rw [countLine_of_isBlankLine _ _ hblank, hfeed]
    exact
      { count := congrArg (· + 1) h.count
        blank := congrArg (· + 1) h.blank
        valid := h.valid
        malformed := h.malformed
        noted := h.noted
        balance := by
          have hbalance := h.balance
          simp only [Simulation.countBlank]
          omega }
  · rw [countLine_of_malformed _ hblank hparse, hfeed]
    exact
      { count := congrArg (· + 1) h.count
        blank := h.blank
        valid := h.valid
        -- the line is noted at the number that each of the two has counted to
        malformed := by simp only [Simulation.countMalformed, h.malformed, h.count]
        noted := by simp only [Simulation.countMalformed, h.noted, List.length_append,
          List.length_singleton]
        balance := by
          have hbalance := h.balance
          simp only [Simulation.countMalformed, List.length_append, List.length_singleton]
          omega }
  · rw [countLine_of_command _ hparse, hfeed]
    exact
      { count := congrArg (· + 1) h.count
        blank := h.blank
        valid := congrArg (· + 1) h.valid
        malformed := h.malformed
        noted := h.noted
        balance := by
          have hbalance := h.balance
          simp only [Simulation.countCommand]
          omega }

/-- A line leaves in the log of a check what it leaves about malformed lines in that of a
simulation. -/
theorem Agrees.record_countLine (line : String) :
    (Check.countLine simulation.mode tally line).2.toList =
      (simulation.feed line).record.toList.filter Log.Record.isAboutMalformed := by
  rcases simulation.feed_cases line with ⟨hblank, hfeed⟩ | ⟨malformed, hblank, hparse, hfeed⟩ |
    ⟨command, hparse, hfeed⟩
  · rw [countLine_of_isBlankLine _ _ hblank, hfeed]
    rfl
  · rw [countLine_of_malformed _ hblank hparse, hfeed, h.count]
    simp [Malformed.record_eq, Diagnostic.isAboutMalformed_record]
  · rw [countLine_of_command _ hparse, hfeed]
    exact (command.filter_record? _).symm

end

/-! ## All lines -/

/-- What is noted of malformed lines grows by what is said about them in the log. -/
theorem diagnostics_feed (simulation : Simulation) (line : String) :
    (simulation.feed line).after.diagnostics.map Diagnostic.record =
      simulation.diagnostics.map Diagnostic.record ++
        (simulation.feed line).record.toList.filter Log.Record.isAboutMalformed := by
  rcases simulation.feed_cases line with ⟨-, hfeed⟩ | ⟨malformed, -, -, hfeed⟩ |
    ⟨command, -, hfeed⟩
  · rw [hfeed]
    simp [Simulation.countBlank]
  · rw [hfeed]
    simp [Simulation.countMalformed, Malformed.record_eq, Diagnostic.isAboutMalformed_record]
  · rw [hfeed, command.filter_record?]
    simp [Simulation.countCommand]

theorem diagnostics_feedAll (simulation : Simulation) (lines : List String) :
    (simulation.feedAll lines).after.diagnostics.map Diagnostic.record =
      simulation.diagnostics.map Diagnostic.record ++
        (simulation.feedAll lines).log.filter Log.Record.isAboutMalformed := by
  induction lines generalizing simulation with
  | nil => simp [Simulation.feedAll]
  | cons line lines ih =>
    simp only [Simulation.feedAll, Trail.behind, ih, diagnostics_feed, List.filter_append,
      List.append_assoc]

/-- After any lines a check and a simulation that agreed before agree again, and the log of the
check is the part of the other log that is about malformed lines. -/
theorem Agrees.countLines {tally : Tally} {simulation : Simulation} (h : Agrees tally simulation)
    (lines : List String) :
    Agrees (countLines simulation.mode tally lines).1 (simulation.feedAll lines).after ∧
      (Check.countLines simulation.mode tally lines).2 =
        (simulation.feedAll lines).log.filter Log.Record.isAboutMalformed := by
  -- both loops change their state, so the induction is over the lines for all states that agree
  induction lines generalizing tally simulation with
  | nil => exact ⟨h, rfl⟩
  | cons line lines ih =>
    obtain ⟨hafter, hlog⟩ := ih (h.countLine line)
    rw [Simulation.mode_feed] at hafter hlog
    refine ⟨hafter, ?_⟩
    simp only [Check.countLines, Simulation.feedAll, Trail.behind, List.filter_append]
    rw [h.record_countLine line, hlog]

/-! ## Results -/

/-- The result of a check says of a script what a simulation has found in it: the figures, the
malformed lines with their numbers and reasons, and whether there are any. If there are, the error
lists them too and counts them in its message. -/
structure Reports (result : Result) (simulation : Simulation) : Prop where
  count : result.data.get? "count" = some (.int simulation.summary.lines)
  blank : result.data.get? "blank" = some (.int simulation.summary.blank)
  valid : result.data.get? "valid" = some (.int simulation.summary.applied)
  malformed : result.data.get? "malformed" =
    some (.list (simulation.diagnostics.map Diagnostic.toValue))
  balance : simulation.summary.lines =
    simulation.summary.applied + simulation.summary.blank + simulation.diagnostics.length
  ok_iff : result.ok = true ↔ simulation.summary.malformed = 0
  error : result.ok = true ∧ result.error = none ∨
    result.ok = false ∧ ∃ error, result.error = some error ∧
      error.message = toString simulation.diagnostics.length ++ " malformed line(s)" ∧
      error.detail.get? "malformed" = result.data.get? "malformed"

theorem Agrees.reports {tally : Tally} {simulation : Simulation} (h : Agrees tally simulation)
    (mode : Mode) : Reports (result mode tally) simulation := by
  have hdata : (result mode tally).data = figures tally := by
    unfold result
    split
    · rfl
    · rfl
  have hzero : tally.malformed.isEmpty = true ↔ simulation.summary.malformed = 0 := by
    rw [h.noted, ← h.malformed, List.isEmpty_iff, List.length_eq_zero_iff]
  refine
    { count := ?_, blank := ?_, valid := ?_, malformed := ?_, balance := h.balance, ok_iff := ?_,
      error := ?_ }
  · rw [hdata, ← h.count]
    rfl
  · rw [hdata, ← h.blank]
    rfl
  · rw [hdata, ← h.valid]
    rfl
  · rw [hdata, ← h.malformed]
    rfl
  · rw [← hzero, result]
    split
    · rename_i hempty
      exact iff_of_true rfl hempty
    · rename_i hempty
      exact iff_of_false Bool.false_ne_true hempty
  · rw [hdata, result]
    split
    · exact Or.inl ⟨rfl, rfl⟩
    · refine Or.inr ⟨rfl, _, rfl, ?_, rfl⟩
      rw [← h.malformed]

/-! ## Whole scripts -/

theorem run_of_failure (mode : Mode) {source : Source} {failure : ReadFailure}
    (h : source.readAll.failure = some failure) :
    run mode source =
      ⟨.error failure, (countLines mode {} source.readAll.lines).2, source.exhausted⟩ := by
  simp only [run_eq, h]

theorem run_of_end (mode : Mode) {source : Source} (h : source.readAll.failure = none) :
    run mode source =
      ⟨.ok (result mode (countLines mode {} source.readAll.lines).1),
        (countLines mode {} source.readAll.lines).2 ++
          [summaryRecord (countLines mode {} source.readAll.lines).1],
        source.exhausted⟩ := by
  simp only [run_eq, h]

end Check

/-- A check and a simulation of the same source agree, whatever the source is. Both close it. Either
both fail to read it, and then for the same reason, or both come to its end, and then the check
reports what the simulation has found. The records about malformed lines are the same in the two
logs, one for each line that the simulation has noted. -/
theorem check_agrees_with_run (board : Board) (mode : Mode) (source : Source) :
    let checked := Check.run mode source
    let run := (Simulation.new board mode).run source
    (checked.source.isClosed = true ∧ run.source.isClosed = true) ∧
      ((∃ failure, checked.result = .error failure ∧ run.failure = some failure) ∨
        ∃ result, checked.result = .ok result ∧ run.failure = none ∧
          Check.Reports result run.trail.after) ∧
      checked.log.filter Log.Record.isAboutMalformed =
        run.trail.log.filter Log.Record.isAboutMalformed ∧
      run.trail.log.filter Log.Record.isAboutMalformed =
        run.trail.after.diagnostics.map Diagnostic.record := by
  intro checked run
  have hrun : run = _ := Simulation.run_eq _ source
  obtain ⟨hagrees, hlog⟩ := (Check.Agrees.new board mode).countLines source.readAll.lines
  rw [hrun]
  have hmalformed : (Check.countLines mode {} source.readAll.lines).2.filter
      Log.Record.isAboutMalformed =
        ((Simulation.new board mode).feedAll source.readAll.lines).log.filter
          Log.Record.isAboutMalformed := by
    have hlog' : (Check.countLines mode {} source.readAll.lines).2 = _ := hlog
    rw [hlog', List.filter_filter]
    simp only [Bool.and_self]
  have hnoted := (Check.diagnostics_feedAll (Simulation.new board mode) source.readAll.lines).symm
  cases hfailure : source.readAll.failure with
  | some failure =>
    have hchecked : checked = _ := Check.run_of_failure mode hfailure
    rw [hchecked]
    exact ⟨⟨source.isClosed_exhausted, source.isClosed_exhausted⟩,
      Or.inl ⟨failure, rfl, rfl⟩, hmalformed, hnoted⟩
  | none =>
    have hchecked : checked = _ := Check.run_of_end mode hfailure
    rw [hchecked]
    refine ⟨⟨source.isClosed_exhausted, source.isClosed_exhausted⟩,
      Or.inr ⟨_, rfl, rfl, hagrees.reports mode⟩, ?_, hnoted⟩
    -- the check adds one record at its end, and that one is about no line
    rw [List.filter_append, hmalformed]
    simp [Check.isAboutMalformed_summaryRecord]

end Tabletop
