import Tabletop.Proofs.Command.Written
import Tabletop.Proofs.Simulation.Feed

/-!
# The books of a simulation

What a simulation has counted and noted is told by the lines that it was fed and by what it answered
to each of them (`Simulation.Accounts`). One more line keeps the books in order (`Accounts.feed`),
so they are in order after any lines (`Accounts.feedAll`).

The diagnostics are those of the lines themselves: each line that is not blank and cannot be read is
noted with its number, and no other is (`noted?`). A line is blank just if nothing is left of it for
reading, so it is never noted that a line is empty (`reason_ne_empty_of_mem_notedAll`).
-/

set_option autoImplicit false

namespace Tabletop

/-! ## Reasons -/

/-- The words for an empty line stand for no other reason. -/
theorem Reason.text_ne_of_ne_empty {reason : Reason} (h : reason ≠ .empty) :
    reason.text ≠ "empty command" := by
  intro htext
  have hfirst := congrArg (fun words => words.toList.head?) htext
  have hlast := congrArg (fun words => words.toList.getLast?) htext
  cases reason with
  | empty => exact h rfl
  | notAscii => exact absurd htext (by decide)
  | unknownCommand keyword =>
    change ("unknown command " ++ _).toList.head? = _ at hfirst
    simp at hfirst
  | takesNoArguments keyword =>
    -- the keyword comes first here, so it is the end that differs
    change (_ ++ " takes no arguments").toList.getLast? = _ at hlast
    simp at hlast
  | argumentsMissing => exact absurd htext (by decide)
  | argumentCount => exact absurd htext (by decide)
  | invalidCoordinate token =>
    change ("invalid coordinate " ++ _).toList.head? = _ at hfirst
    simp at hfirst
  | unknownDirection token =>
    change ("unknown direction " ++ _).toList.head? = _ at hfirst
    simp at hfirst

namespace Grammar

theorem placement_ne_empty (mode : Mode) (rest : List Char) :
    placement mode rest ≠ .error .empty := by
  unfold placement coordinate direction
  repeat' split
  all_goals simp [bind, Except.bind]

/-- A text with a character in it is not refused for being empty. -/
theorem command_ne_empty (mode : Mode) {text : List Char} (h : text ≠ []) :
    command mode text ≠ .error .empty := by
  have hsome : text.isEmpty = false := List.isEmpty_eq_false_iff.2 h
  simp only [command, hsome, Bool.false_eq_true, if_false]
  split
  · nofun
  · split
    · exact placement_ne_empty mode _
    · split <;> nofun

end Grammar

/-- A line that is not blank is not refused for being empty. -/
theorem reason_ne_empty_of_parse {mode : Mode} {line : String} {malformed : Malformed}
    (hblank : isBlankLine line = false) (h : parse mode line = .error malformed) :
    malformed.reason ≠ .empty := by
  intro hempty
  have hreason := (parse_eq_error_iff.1 h).1
  rw [hempty] at hreason
  exact Grammar.command_ne_empty mode (List.isEmpty_eq_false_iff.1 hblank) hreason

/-! ## What is noted of lines -/

/-- What is noted of a line with its number: nothing of a line of blanks or of a command, and of any
other line why it is none, with the line as it is without the blanks around it. -/
def noted? (mode : Mode) (numbered : String × Nat) : Option Diagnostic :=
  if numbered.1.toList.all Text.isBlank then none
  else
    match parse mode numbered.1 with
    | .ok _ => none
    | .error malformed =>
      some ⟨numbered.2, String.ofList (Text.trim numbered.1.toList), malformed.reason⟩

theorem isBlankLine_eq_all (line : String) : isBlankLine line = line.toList.all Text.isBlank := by
  rw [Bool.eq_iff_iff, isBlankLine, List.isEmpty_iff, Text.trim_eq_nil_iff, List.all_eq_true]

section

variable {mode : Mode} {line : String} {place : Nat}

theorem noted?_of_isBlankLine (h : isBlankLine line = true) : noted? mode (line, place) = none := by
  rw [isBlankLine_eq_all] at h
  simp only [noted?, h, if_true]

theorem noted?_of_command {command : Command} (h : parse mode line = .ok command) :
    noted? mode (line, place) = none := by
  simp only [noted?, h, ite_self]

theorem noted?_of_malformed {malformed : Malformed} (hblank : isBlankLine line = false)
    (h : parse mode line = .error malformed) :
    noted? mode (line, place) = some (malformed.at place) := by
  rw [isBlankLine_eq_all] at hblank
  simp only [noted?, hblank, h, Bool.false_eq_true, if_false, Malformed.at,
    (parse_eq_error_iff.1 h).2]

theorem noted?_eq_some {diagnostic : Diagnostic} (h : noted? mode (line, place) = some diagnostic) :
    diagnostic.lineNumber = place ∧ diagnostic.reason ≠ .empty := by
  cases hblank : isBlankLine line with
  | true =>
    rw [noted?_of_isBlankLine hblank] at h
    cases h
  | false =>
    cases hparse : parse mode line with
    | ok command =>
      rw [noted?_of_command hparse] at h
      cases h
    | error malformed =>
      rw [noted?_of_malformed hblank hparse] at h
      cases h
      exact ⟨rfl, reason_ne_empty_of_parse hblank hparse⟩

theorem noted?_eq_none_iff : noted? mode (line, place) = none ↔
    line.toList.all Text.isBlank = true ∨ ∃ command, parse mode line = .ok command := by
  cases hblank : isBlankLine line with
  | true => simp [noted?_of_isBlankLine hblank, ← isBlankLine_eq_all, hblank]
  | false =>
    rw [← isBlankLine_eq_all, hblank]
    cases hparse : parse mode line with
    | ok command => simp [noted?_of_command hparse]
    | error malformed => simp [noted?_of_malformed hblank hparse]

end

/-- What is noted of the lines of a list, whose numbers count from one. -/
def notedAll (mode : Mode) (lines : List String) : List Diagnostic :=
  (lines.zipIdx 1).filterMap (noted? mode)

/-- Nothing is noted if each line is blank or a command, and only then. -/
theorem notedAll_eq_nil_iff {mode : Mode} {lines : List String} : notedAll mode lines = [] ↔
    ∀ line ∈ lines,
      line.toList.all Text.isBlank = true ∨ ∃ command, parse mode line = .ok command := by
  rw [notedAll, List.filterMap_eq_nil_iff]
  constructor
  · intro h line hline
    rw [← List.zipIdx_map_fst 1 lines] at hline
    obtain ⟨⟨_, place⟩, hplace, rfl⟩ := List.mem_map.1 hline
    exact noted?_eq_none_iff.1 (h _ hplace)
  · rintro h ⟨line, place⟩ hplace
    apply noted?_eq_none_iff.2
    apply h
    rw [← List.zipIdx_map_fst 1 lines]
    exact List.mem_map_of_mem hplace

theorem notedAll_concat (mode : Mode) (lines : List String) (line : String) :
    notedAll mode (lines ++ [line]) =
      notedAll mode lines ++ (noted? mode (line, lines.length + 1)).toList := by
  rw [notedAll, List.zipIdx_append, List.filterMap_append, notedAll, Nat.add_comm 1]
  congr 1

/-- The numbers of the lines that are noted grow. -/
theorem pairwise_notedAll (mode : Mode) (lines : List String) :
    (notedAll mode lines).Pairwise fun first second => first.lineNumber < second.lineNumber := by
  have hplaces : (lines.zipIdx 1).Pairwise fun first second => first.2 < second.2 := by
    rw [← List.pairwise_map (f := Prod.snd) (R := (· < ·)), List.zipIdx_map_snd]
    exact List.pairwise_lt_range'
  refine hplaces.filterMap _ ?_
  rintro ⟨first, place⟩ ⟨second, later⟩ hlater diagnostic hfirst other hsecond
  rw [(noted?_eq_some hfirst).1, (noted?_eq_some hsecond).1]
  exact hlater

theorem reason_ne_empty_of_mem_notedAll {mode : Mode} {lines : List String}
    {diagnostic : Diagnostic} (h : diagnostic ∈ notedAll mode lines) :
    diagnostic.reason ≠ .empty := by
  obtain ⟨⟨line, place⟩, -, hnoted⟩ := List.mem_filterMap.1 h
  exact (noted?_eq_some hnoted).2

namespace Simulation

/-! ## The books -/

/-- The figures and diagnostics of a simulation that was fed some lines and handed some texts to the
output. -/
structure Accounts (simulation : Simulation) (fed output : List String) : Prop where
  lines : simulation.summary.lines = fed.length
  blank : simulation.summary.blank = fed.countP isBlankLine
  balance : simulation.summary.lines =
    simulation.summary.blank + simulation.summary.applied + simulation.summary.malformed
  malformed : simulation.summary.malformed = simulation.diagnostics.length
  reports : simulation.summary.reports = output.length
  reports_le : simulation.summary.reports ≤ simulation.summary.applied
  diagnostics : simulation.diagnostics = notedAll simulation.mode fed

theorem Accounts.new (board : Board) (mode : Mode) :
    (Simulation.new board mode).Accounts [] [] where
  lines := rfl
  blank := rfl
  balance := rfl
  malformed := rfl
  reports := rfl
  reports_le := Nat.le_refl 0
  diagnostics := rfl

section

variable {simulation : Simulation} {fed output : List String}

/-- One more line keeps the books in order. -/
theorem Accounts.feed (h : simulation.Accounts fed output) (line : String) :
    (simulation.feed line).after.Accounts (fed ++ [line])
      (output ++ (simulation.feed line).output) := by
  have hbalance := h.balance
  rcases simulation.feed_cases line with ⟨hblank, hfeed⟩ | ⟨malformed, hblank, hparse, hfeed⟩ |
    ⟨command, hparse, hfeed⟩
  · rw [hfeed]
    exact
      { lines := by simp [countBlank, h.lines]
        blank := by simp [countBlank, h.blank, hblank]
        balance := by
          simp only [countBlank]
          omega
        malformed := h.malformed
        reports := by simp [countBlank, h.reports]
        reports_le := h.reports_le
        diagnostics := by
          simp [countBlank, h.diagnostics, notedAll_concat, noted?_of_isBlankLine hblank] }
  · rw [hfeed]
    exact
      { lines := by simp [countMalformed, h.lines]
        blank := by simp [countMalformed, h.blank, hblank]
        balance := by
          simp only [countMalformed]
          omega
        malformed := by simp [countMalformed, h.malformed]
        reports := by simp [countMalformed, h.reports]
        reports_le := h.reports_le
        -- the number that the line is noted with is that of the lines so far and one more
        diagnostics := by
          simp [countMalformed, h.diagnostics, notedAll_concat, h.lines,
            noted?_of_malformed hblank hparse] }
  · rw [hfeed]
    have hblank : isBlankLine line = false := isBlankLine_of_parse_eq_ok hparse
    have hreports := h.reports
    have hle := h.reports_le
    exact
      { lines := by simp [countCommand, h.lines]
        blank := by simp [countCommand, h.blank, hblank]
        balance := by
          simp only [countCommand]
          omega
        malformed := h.malformed
        reports := by
          simp only [countCommand, List.length_append]
          cases (simulation.robot.obey command).2 with
          | reported text => simp [Response.report?, Response.output, hreports]
          | done => simp [Response.report?, Response.output, hreports]
          | refused => simp [Response.report?, Response.output, hreports]
        reports_le := by
          simp only [countCommand]
          split <;> omega
        diagnostics := by
          simp [countCommand, h.diagnostics, notedAll_concat, noted?_of_command hparse] }

/-- The books are in order after any more lines. -/
theorem Accounts.feedAll (h : simulation.Accounts fed output) (lines : List String) :
    (simulation.feedAll lines).after.Accounts (fed ++ lines)
      (output ++ (simulation.feedAll lines).output) := by
  induction lines generalizing simulation fed output with
  | nil => simpa [Simulation.feedAll] using h
  | cons line lines ih =>
    have hlater := ih (h.feed line)
    rw [List.append_assoc, List.append_assoc] at hlater
    exact hlater

end

end Simulation

/-- After any lines the books of a simulation are in order. Each line has been counted as blank, as
a command, or as malformed; each malformed one is noted, with its number and without the blanks
around it, in the order of the lines. As many texts were handed to the output as reports are
counted, each of them for a command; they are what the lines were answered with, each line with one
of them or with nothing. -/
theorem feedAll_accounts (board : Board) (mode : Mode) (lines : List String) :
    let trail := (Simulation.new board mode).feedAll lines
    let summary := trail.after.summary
    let diagnostics := trail.after.diagnostics
    summary.lines = lines.length ∧
      summary.lines = summary.blank + summary.applied + summary.malformed ∧
      summary.blank = lines.countP (fun line => line.toList.all Text.isBlank) ∧
      summary.malformed = diagnostics.length ∧
      (summary.reports = trail.output.length ∧ summary.reports ≤ summary.applied ∧
        trail.answers.length = lines.length ∧ trail.output = trail.answers.filterMap id) ∧
      diagnostics = (lines.zipIdx 1).filterMap (noted? mode) ∧
      (diagnostics.Pairwise fun first second => first.lineNumber < second.lineNumber) ∧
      ∀ diagnostic ∈ diagnostics,
        diagnostic.reason ≠ .empty ∧ diagnostic.reason.text ≠ "empty command" := by
  intro trail summary diagnostics
  have haccounts : trail.after.Accounts lines trail.output :=
    (Simulation.Accounts.new board mode).feedAll lines
  have hmode : trail.after.mode = mode := Simulation.mode_feedAll _ lines
  have hdiagnostics : diagnostics = notedAll mode lines := by
    rw [← hmode]
    exact haccounts.diagnostics
  refine ⟨haccounts.lines, haccounts.balance, ?_, haccounts.malformed,
    ⟨haccounts.reports, haccounts.reports_le, Simulation.length_answers_feedAll _ lines,
      Simulation.output_feedAll _ lines⟩, hdiagnostics, ?_, ?_⟩
  · rw [← funext isBlankLine_eq_all]
    exact haccounts.blank
  · rw [hdiagnostics]
    exact pairwise_notedAll mode lines
  · intro diagnostic hmem
    rw [hdiagnostics] at hmem
    have hreason := reason_ne_empty_of_mem_notedAll hmem
    exact ⟨hreason, Reason.text_ne_of_ne_empty hreason⟩

end Tabletop
