import Tabletop.CommandLine.Script
import Tabletop.CommandLine.Words
import Tabletop.Text.Decimal

/-!
# Requests

What the words of a command line ask for. The words before the name of a task belong to the program
as a whole (`Opening.ofWords`), those after it to the task (`Request.ofWords`).

Where a page is asked for, it is shown and nothing else is done. Otherwise the values of switches
are read in the order in which the switches were given first, then the word for a file.
-/

set_option autoImplicit false

namespace Tabletop.CommandLine

/-- Why nothing more is done about some words: a page was asked for, they are at fault, or one of
them is a path that cannot even be looked up. -/
inductive Ending where
  | page (text : String)
  | fault (scope : Scope) (fault : Fault)
  | unusable (failure : PathFailure)
  deriving DecidableEq, Repr

/-- The words of a scope, unless they are at fault or ask for a page. -/
def wordsOf (scope : Scope) (words : List String) : Except Ending Words :=
  match readWords scope words with
  | .error fault => .error (.fault scope fault)
  | .ok read =>
    match read.page? scope with
    | some text => .error (.page text)
    | none => .ok read

/-- What is asked of the program as a whole: how results and records are to be written, which file
holds the settings, and a task with the words that belong to it. -/
structure Opening where
  jsonOutput : Bool
  quiet : Bool
  verbose : Bool
  logJson : Bool
  config : Option String
  task : Option (Task × List String)
  deriving DecidableEq, Repr

namespace Opening

/-- The fault of a word that should be the name of a task. Where it was let through as no switch it
is read once more as one. -/
def unknownTask (name : String) (rest : List String) : Ending :=
  match wordsOf .program (name :: rest) with
  | .error ending => ending
  | .ok _ =>
    .fault .program (.unknownTask name (Text.resembling name (Task.all.map Task.name)))

/-- The task that the words after the switches name. -/
def taskOf : List String → Except Ending (Option (Task × List String))
  | [] => .ok none
  | name :: rest =>
    match Task.ofName? name with
    | some task => .ok (some (task, rest))
    | none => .error (unknownTask name rest)

/-- What all words of a command line ask of the program as a whole. -/
def ofWords (words : List String) : Except Ending Opening := do
  let read ← wordsOf .program words
  let task ← taskOf read.others
  .ok
    { jsonOutput := read.has .json
      quiet := read.has .quiet
      verbose := read.has .verbose
      logJson := read.has .logJson
      config := read.value? .config
      task := task }

end Opening

/-- The length of a side. -/
abbrev Side := { n : Int // 0 < n }

/-- What is asked of a task. -/
inductive Request where
  | run (script : Script) (width height : Option Side)
  | check (script : Script)
  deriving DecidableEq

namespace Request

/-- The side that a switch gives. -/
def sideOf (words : Words) (switch : Switch) : Except Fault (Option Side) :=
  match words.value? switch with
  | none => .ok none
  | some value =>
    match Text.integer? value.toList with
    | none => .error (.notInteger switch value)
    | some n => if h : 0 < n then .ok (some ⟨n, h⟩) else .error (.notPositive switch n)

/-- Whether the height was given before any width. -/
def isHeightFirst (words : Words) : Bool :=
  let sizes := words.given.filter fun entry => entry.1 == .width || entry.1 == .height
  match sizes with
  | (.height, _) :: _ => true
  | _ => false

/-- Both sides; of two faults the one counts whose switch was given first. -/
def sidesOf (words : Words) : Except Fault (Option Side × Option Side) :=
  if isHeightFirst words then do
    let height ← sideOf words .height
    let width ← sideOf words .width
    .ok (width, height)
  else do
    let width ← sideOf words .width
    let height ← sideOf words .height
    .ok (width, height)

/-- The script of a request. -/
def script : Request → Script
  | run script _ _ => script
  | check script => script

/-- What was read for a task; a fault ends it. -/
def orEnding {α : Type} (task : Task) : Except Fault α → Except Ending α
  | .error fault => .error (.fault (.task task) fault)
  | .ok a => .ok a

/-- The script that a word for a file stands for. The word may not lead to a directory. -/
def scriptOf (tree : FileTree) (task : Task) (title word : String) : Except Ending Script :=
  if word = Script.inputWord then .ok (Script.ofWord word)
  else
    match tree.stat word with
    | .error .holdsZero => .error (.unusable ⟨.holdsZero, word⟩)
    | .ok .directory => .error (.fault (.task task) (.directory title word))
    | _ => .ok (Script.ofWord word)

/-- That no words are left over. -/
def noneOf : List String → Except Fault Unit
  | [] => .ok ()
  | first :: others => .error (.unwantedWords first others)

/-- What the words of a run ask for. -/
def runOf (tree : FileTree) (words : Words) : Except Ending Request := do
  let (width, height) ← orEnding .run (sidesOf words)
  match words.others with
  | [] => .ok (.run .standardInput width height)
  | word :: rest =>
    let script ← scriptOf tree .run "[FILE]" word
    orEnding .run (noneOf rest)
    .ok (.run script width height)

/-- What the words of a check ask for. -/
def checkOf (tree : FileTree) (words : Words) : Except Ending Request :=
  match words.others with
  | [] => .error (.fault (.task .check) .noFile)
  | word :: rest => do
    let script ← scriptOf tree .check "FILE" word
    orEnding .check (noneOf rest)
    .ok (.check script)

/-- What the words of a task ask for. -/
def ofWords (tree : FileTree) (task : Task) (words : List String) : Except Ending Request := do
  let read ← wordsOf (.task task) words
  match task with
  | .run => runOf tree read
  | .check => checkOf tree read

end Request

end Tabletop.CommandLine
