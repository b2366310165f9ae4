import Tabletop.Check
import Tabletop.CommandLine.Request
import Tabletop.Display.Result
import Tabletop.Log.Sink
import Tabletop.Settings

/-!
# The command line

What the program does when it is called: from the words of the command line, the standard input, the
files and the environment to what is written and the number it ends with (`invoke`).

The words of the program as a whole are read first, then the settings are put together, and only
then the words of the task are read. A run writes its reports to the standard output and ends well
however many lines are malformed; a check ends well only if none is. Either ends with a
failure if its script cannot be read.

The numbers are 0 for a good end, 1 for a failure and 2 for words at fault.
-/

set_option autoImplicit false

namespace Tabletop

/-- What ended the program where it was not meant to end. -/
inductive Crash where
  /-- The settings cannot be put together, for no fault of the user. -/
  | unsettled (failure : SettingsFailure)
  /-- A result cannot be shown. -/
  | undisplayable (fault : Undisplayable)
  /-- A path cannot be looked up. -/
  | unusable (failure : PathFailure)

/-- A crash in words. -/
def Crash.message : Crash → String
  | unsettled failure => failure.message
  | undisplayable fault => fault.message
  | unusable failure => failure.message

/-- What a call of the program leaves behind. The records of the log, with where they go, are
written to the standard error before all else. -/
structure Outcome where
  exitCode : Nat
  output : String := ""
  sink : Log.Sink := ⟨[], none, true⟩
  log : List Log.Record := []
  errors : String := ""
  crash : Option Crash := none

namespace Outcome

/-- What is written to the standard error, with the time that the records bear. -/
def standardError (time : String) (outcome : Outcome) : String :=
  String.join (outcome.log.map (outcome.sink.write time)) ++ outcome.errors

/-- A page, and nothing else. -/
def page (text : String) : Outcome where
  exitCode := 0
  output := Display.echo text

/-- An end by a crash. -/
def crashed (crash : Crash) : Outcome where
  exitCode := 1
  crash := some crash

end Outcome

/-- The board of the settings with sides of its own, where they are given. -/
def Board.resized (board : Board) (width height : Option CommandLine.Side) : Board :=
  let width := width.getD ⟨board.width, board.width_pos⟩
  let height := height.getD ⟨board.height, board.height_pos⟩
  ⟨width.1, height.1, width.2, height.2⟩

/-- How results are to be shown under some settings. -/
def Settings.outputMode (settings : Settings) : OutputMode where
  asJson := settings.jsonOutput
  isQuiet := settings.quiet
  isVerbose := settings.verbose

/-- Where records go under some settings. -/
def Settings.sink (settings : Settings) : Log.Sink :=
  Log.Sink.configure settings.verbose settings.logJson ⟨[], none, true⟩

namespace CommandLine

/-- An end with a page, with words at fault, or by a crash. -/
def Ending.outcome : Ending → Outcome
  | page text => Outcome.page text
  | fault scope found =>
    { exitCode := 2, errors := String.join ((found.report scope).map Display.echo) }
  | unusable failure => Outcome.crashed (.unusable failure)

/-- An end with a result, after some output and records. -/
def emit [Text.EmojiTable] (settings : Settings) (output : String) (log : List Log.Record)
    (result : Result) : Outcome :=
  let mode := settings.outputMode
  match result.text mode with
  | .error fault =>
    { Outcome.crashed (.undisplayable fault) with output, sink := settings.sink, log }
  | .ok text =>
    if result.ok then
      { exitCode := 0
        output := output ++ Display.echo text
        sink := settings.sink
        log
        errors :=
          if mode.asJson then ""
          else
            String.join (result.warnings.map fun warning =>
              Display.echo ("WARNING: " ++ warning)) }
    else { exitCode := 1, output, sink := settings.sink, log, errors := Display.echo text }

/-- The result of an operation whose script could not be read. -/
def unreadable (op : String) (script : Script) (failure : ReadFailure) : Result :=
  Result.failure op
    { code := "IO_ERROR"
      message := "An error has occurred reading " ++ script.name ++ ": " ++ failure.message
      detail := [("source", .text script.name)] }
    [] none

/-- What the log says about a run that came to its end. -/
def finishedRecord (board : Board) (summary : Summary) : Log.Record :=
  Log.debug Log.runLogger
    ("Run finished on " ++ toString board.width ++ "x" ++ toString board.height ++ " board: " ++
      (Value.record summary.toFields).literal)

/-- What the log says about a run that a failure ended. -/
def abortedRecord (failure : ReadFailure) : Log.Record :=
  { Log.debug Log.runLogger "Run aborted" with
    cause :=
      ["<class '" ++ failure.className ++ "'>", failure.literal, "<traceback object at 0x0>"] }

/-- A run that a failure ended. -/
def abort [Text.EmojiTable] (settings : Settings) (script : Script) (output : String)
    (log : List Log.Record) (failure : ReadFailure) : Outcome :=
  emit settings output (log ++ [abortedRecord failure])
    (unreadable Task.run.name script failure)

/-- A run of a script on a board. -/
def run [Text.EmojiTable] (tree : FileTree) (input : List UInt8) (settings : Settings)
    (board : Board) (script : Script) : Outcome :=
  match script.source tree input with
  | .error failure => abort settings script "" [] failure
  | .ok source =>
    let run := (Simulation.new board settings.mode).run source
    let output := String.join (run.trail.output.map Display.echo)
    match run.failure with
    | some failure => abort settings script output run.trail.log failure
    | none =>
      { exitCode := 0
        output
        sink := settings.sink
        log := run.trail.log ++ [finishedRecord board run.trail.after.summary] }

/-- A check of a script. -/
def check [Text.EmojiTable] (tree : FileTree) (input : List UInt8) (settings : Settings)
    (script : Script) : Outcome :=
  match script.source tree input with
  | .error failure => emit settings "" [] (unreadable Check.op script failure)
  | .ok source =>
    let checked := Check.run settings.mode source
    match checked.result with
    | .error failure => emit settings "" checked.log (unreadable Check.op script failure)
    | .ok result => emit settings "" checked.log result

/-- What is done about a request. -/
def carryOut [Text.EmojiTable] (tree : FileTree) (input : List UInt8) (settings : Settings) :
    Request → Outcome
  | .run script width height =>
    run tree input settings (settings.board.resized width height) script
  | .check script => check tree input settings script

/-- What is done under some settings. Without a task the help of the program is shown. -/
def perform [Text.EmojiTable] (tree : FileTree) (input : List UInt8) (settings : Settings) :
    Option (Task × List String) → Outcome
  | none => { Outcome.page (Scope.help .program) with sink := settings.sink }
  | some (task, words) =>
    match Request.ofWords tree task words with
    | .error ending => { ending.outcome with sink := settings.sink }
    | .ok request => carryOut tree input settings request

/-- The flags of the program as the highest layer of its settings. -/
def Opening.flags (opening : Opening) : Fields :=
  [("json_output", .bool opening.jsonOutput), ("quiet", .bool opening.quiet),
    ("verbose", .bool opening.verbose), ("log_json", .bool opening.logJson)]

/-- An end for want of settings. -/
def unsettled (failure : SettingsFailure) : Outcome :=
  if failure.isUsage then { exitCode := 1, errors := Display.echo ("Error: " ++ failure.message) }
  else Outcome.crashed (.unsettled failure)

/-- What the program does when it is called. -/
def invoke [Text.EmojiTable] (around : Surroundings) (input : List UInt8) (words : List String) :
    Outcome :=
  match Opening.ofWords words with
  | .error ending => ending.outcome
  | .ok opening =>
    match Settings.load around opening.config none opening.flags with
    | .error failure => unsettled failure
    | .ok settings => perform around.tree input settings opening.task

end CommandLine

end Tabletop
