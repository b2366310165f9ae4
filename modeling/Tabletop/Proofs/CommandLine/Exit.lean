import Tabletop.Proofs.CommandLine.Script
import Tabletop.Proofs.Check.Findings
import Tabletop.Proofs.Display.Showable
import Tabletop.Proofs.Source.File

/-!
# How tasks end

A script is read to its end just if it can be opened and holds a text in UTF-8
(`failure_reading_eq_none_iff`), and then its lines are those of the text. What was read tells the
number that a run ends with and what it writes to the standard output (`run_ends`). It also tells
whether the script passes a check (`Script.Passes`); a check ends well and writes to the standard
output if it does (`check_of_passes`), and does neither if it does not (`check_of_not_passes`).

Of the settings only the mode of reading lines comes in. How results and records are to be shown
makes no difference here, since a check can be shown in every way.
-/

set_option autoImplicit false

namespace Tabletop

namespace CommandLine

variable {tree : FileTree} {input : List UInt8} {settings : Settings} {script : Script}
  {text : List Char} {output : String} {log : List Log.Record} {result : Result}

/-! ## Reading a script -/

/-- The bytes of a script, if it can be opened. -/
def Script.bytes (tree : FileTree) (input : List UInt8) :
    Script → Except PathFailure (List UInt8)
  | .standardInput => .ok input
  | .file path => tree.read path

/-- A script that can be opened and holds a text in UTF-8. -/
def Script.Holds (tree : FileTree) (input : List UInt8) (script : Script) (text : List Char) :
    Prop :=
  script.bytes tree input = .ok (text.flatMap String.utf8EncodeChar)

/-- What is read of a script. -/
def Script.reading (tree : FileTree) (input : List UInt8) (script : Script) : Reading :=
  match script.source tree input with
  | .error failure => ⟨[], some failure⟩
  | .ok source => source.readAll

theorem reading_of_unopened {failure : PathFailure}
    (h : script.bytes tree input = .error failure) :
    script.reading tree input = ⟨[], some (.path failure)⟩ := by
  cases script with
  | standardInput => cases h
  | file path =>
    have hread : tree.read path = .error failure := h
    simp only [Script.reading, Script.source, hread]

/-- The standard input is read as a file with the same bytes would be. -/
theorem reading_of_opened {bytes : List UInt8} (h : script.bytes tree input = .ok bytes) :
    script.reading tree input = (Source.ofFile bytes).readAll := by
  cases script with
  | standardInput =>
    cases h
    exact (Source.ofFile input).readAll_owner false
  | file path =>
    have hread : tree.read path = .ok bytes := h
    simp only [Script.reading, Script.source, hread]

/-- A script that holds a text is read to its end, line by line. -/
theorem reading_of_holds (h : script.Holds tree input text) :
    script.reading tree input = ⟨(Text.lines text).map String.ofList, none⟩ := by
  rw [Script.Holds, ← Text.Utf8.encode_eq_flatMap] at h
  rw [reading_of_opened h]
  exact Source.readAll_ofFile_encode text

/-- A script is read to its end just if it holds a text. -/
theorem failure_reading_eq_none_iff :
    (script.reading tree input).failure = none ↔ ∃ text, script.Holds tree input text := by
  constructor
  · intro h
    cases hbytes : script.bytes tree input with
    | error failure =>
      rw [reading_of_unopened hbytes] at h
      cases h
    | ok bytes =>
      rw [reading_of_opened hbytes] at h
      obtain ⟨text, rfl⟩ := Source.exists_text_of_readAll_ofFile h
      rw [Text.Utf8.encode_eq_flatMap] at hbytes
      exact ⟨text, hbytes⟩
  · rintro ⟨text, h⟩
    rw [reading_of_holds h]

/-! ## Ends with a result -/

theorem echo_ne_empty (text : String) : Display.echo text ≠ "" := by
  intro h
  have hlist := congrArg String.toList h
  simp [Display.echo, String.toList_append] at hlist

/-- A failure is not written to the standard output. -/
theorem emit_of_not_ok [Text.EmojiTable] (h : result.ok = false) :
    (emit settings output log result).exitCode = 1 ∧
      (emit settings output log result).output = output := by
  unfold emit
  dsimp only
  split
  · exact ⟨rfl, rfl⟩
  · simp only [h, Bool.false_eq_true, if_false, and_self]

/-- A result that went well and can be shown is written to the standard output. -/
theorem emit_of_ok [Text.EmojiTable] (h : result.ok = true) (hshow : result.Showable) :
    (emit settings output log result).exitCode = 0 ∧
      (emit settings output log result).output ≠ "" := by
  obtain ⟨text, htext⟩ := hshow settings.outputMode
  unfold emit
  dsimp only
  rw [htext]
  simp only [h, if_true, true_and]
  intro hempty
  rw [String.append_eq_empty_iff] at hempty
  exact echo_ne_empty text hempty.2

/-! ## Tasks -/

/-- A run ends well if its script is read to its end. It writes the output of its simulation, that
before a failure too. -/
theorem run_ends [Text.EmojiTable] (tree : FileTree) (input : List UInt8) (settings : Settings)
    (board : Board) (script : Script) :
    let reading := script.reading tree input
    let trail := (Simulation.new board settings.mode).feedAll reading.lines
    let outcome := run tree input settings board script
    outcome.exitCode = (if reading.failure = none then 0 else 1) ∧
      outcome.output = String.join (trail.output.map Display.echo) := by
  intro reading trail outcome
  simp only [reading, trail, outcome, run, Script.reading]
  -- a script without a source has no lines, and so its run has no reports
  cases script.source tree input with
  | error failure => exact emit_of_not_ok rfl
  | ok source =>
    simp only [Simulation.run_eq]
    cases source.readAll.failure with
    | some failure => exact emit_of_not_ok rfl
    | none => exact ⟨rfl, rfl⟩

/-- What a check of a script comes to. -/
def checkResult (tree : FileTree) (input : List UInt8) (mode : Mode) (script : Script) : Result :=
  let reading := script.reading tree input
  match reading.failure with
  | some failure => unreadable Check.op script failure
  | none => Check.result mode (Check.countLines mode {} reading.lines).1

/-- A check writes its result and nothing else. -/
theorem exists_check_eq_emit [Text.EmojiTable] (tree : FileTree) (input : List UInt8)
    (settings : Settings) (script : Script) : ∃ log, check tree input settings script =
      emit settings "" log (checkResult tree input settings.mode script) := by
  -- how far the script was read shows in the log and in the result, not in how they are written
  unfold check checkResult Script.reading
  cases script.source tree input with
  | error failure => exact ⟨_, rfl⟩
  | ok source =>
    dsimp only
    cases hfailure : source.readAll.failure with
    | some failure =>
      rw [Check.run_of_failure settings.mode hfailure]
      exact ⟨_, rfl⟩
    | none =>
      rw [Check.run_of_end settings.mode hfailure]
      exact ⟨_, rfl⟩

/-- A script passes a check if it is read to its end and none of its lines is noted. -/
def Script.Passes (tree : FileTree) (input : List UInt8) (mode : Mode) (script : Script) : Prop :=
  (script.reading tree input).failure = none ∧
    notedAll mode (script.reading tree input).lines = []

variable {mode : Mode}

theorem checkResult_of_passes [Text.EmojiTable] (h : script.Passes tree input mode) :
    (checkResult tree input mode script).ok = true ∧
      (checkResult tree input mode script).Showable := by
  obtain ⟨hread, hnoted⟩ := h
  simp only [checkResult, hread]
  refine ⟨?_, Check.showable_result mode _⟩
  rw [Check.ok_result, Check.malformed_countLines, hnoted]
  rfl

theorem checkResult_of_not_passes (h : ¬ script.Passes tree input mode) :
    (checkResult tree input mode script).ok = false := by
  cases hread : (script.reading tree input).failure with
  | some failure =>
    simp only [checkResult, hread]
    rfl
  | none =>
    simp only [checkResult, hread]
    rw [Check.ok_result, Check.malformed_countLines, List.isEmpty_eq_false_iff]
    exact fun hnoted => h ⟨hread, hnoted⟩

/-- A check ends well, and with something on the standard output, if the script passes it. -/
theorem check_of_passes [Text.EmojiTable] (h : script.Passes tree input settings.mode) :
    (check tree input settings script).exitCode = 0 ∧
      (check tree input settings script).output ≠ "" := by
  obtain ⟨log, hcheck⟩ := exists_check_eq_emit tree input settings script
  obtain ⟨hok, hshow⟩ := checkResult_of_passes h
  rw [hcheck]
  exact emit_of_ok hok hshow

/-- A check ends in a failure, and with nothing on the standard output, if it does not. -/
theorem check_of_not_passes [Text.EmojiTable] (h : ¬ script.Passes tree input settings.mode) :
    (check tree input settings script).exitCode = 1 ∧
      (check tree input settings script).output = "" := by
  obtain ⟨log, hcheck⟩ := exists_check_eq_emit tree input settings script
  rw [hcheck]
  exact emit_of_not_ok (checkResult_of_not_passes h)

/-- A script passes a check just if it holds a text of which each line is blank or a command. -/
theorem passes_iff : script.Passes tree input mode ↔
    ∃ text, script.Holds tree input text ∧ ∀ line ∈ (Text.lines text).map String.ofList,
      line.toList.all Text.isBlank = true ∨ ∃ command, parse mode line = .ok command := by
  constructor
  · rintro ⟨hread, hnoted⟩
    obtain ⟨text, hholds⟩ := failure_reading_eq_none_iff.1 hread
    rw [reading_of_holds hholds] at hnoted
    exact ⟨text, hholds, notedAll_eq_nil_iff.1 hnoted⟩
  · rintro ⟨text, hholds, hlines⟩
    rw [Script.Passes, reading_of_holds hholds]
    exact ⟨rfl, notedAll_eq_nil_iff.2 hlines⟩

end CommandLine

end Tabletop
