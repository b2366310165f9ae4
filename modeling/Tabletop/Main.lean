import Std.Time.DateTime
import Tabletop.CommandLine

/-!
# The program

Looks at the world around a call, hands it to `CommandLine.invoke`, and writes what comes out of it.
Of the files, those that the words of the call and the environment name are looked up, and settings
files from the working directory upwards. The standard input is read only if a script comes from it.
Few codes for emoji are known here.
-/

set_option autoImplicit false

namespace Tabletop.Main

/-- The names of a path in text that leads to them from the root. -/
def namesOf (text : String) : List String :=
  (Path.ofText text).names

/-- What stands at a place, laid into a tree. -/
def addPlace (tree : FileTree) (place : List String) : IO FileTree := do
  let here ← IO.currentDir
  let path := here / (Path.absolute place).text
  if ← path.isDir then
    return { tree with directories := place :: tree.directories }
  else if ← path.pathExists then
    try
      let bytes ← IO.FS.readBinFile path
      return { tree with files := (place, bytes.toList) :: tree.files }
    catch _ => return tree
  else return tree

/-- What stands on the way along a path and at its end, laid into a tree. -/
def addPath (tree : FileTree) (path : Path) : IO FileTree :=
  let place (n : Nat) : List String :=
    Path.resolve tree.workingDirectory { path with names := path.names.take n }
  ((List.range (path.names.length + 1)).map place).foldlM addPlace tree

/-- The paths that may matter to a call: those that are named, and those of the usual name from a
directory upwards. -/
def pathsOf (place : List String) (entries : List (String × String)) (words : List String) :
    List Path :=
  let opening := (CommandLine.Opening.ofWords words).toOption
  let task := opening.bind CommandLine.Opening.task
  let scripts := task.bind fun task =>
    (CommandLine.readWords (.task task.1) task.2).toOption.map CommandLine.Words.others
  let named := (opening.bind CommandLine.Opening.config).toList ++
    (List.lookup Settings.fileVariable entries).toList ++ scripts.getD []
  named.map Path.ofText ++
    (FileTree.upwards place).map fun above => Path.absolute (above ++ [Settings.fileName])

/-- The entries in the bytes in which the system holds them, each ended by a zero. -/
def variablesOf (bytes : List UInt8) : List (String × String) :=
  match Text.Utf8.decode bytes with
  | .error _ => []
  | .ok text =>
    (Text.splitOn '\x00' text).filterMap fun entry =>
      match entry.dropWhile (· != '=') with
      | [] => none
      | _ :: value => some (String.ofList (entry.takeWhile (· != '=')), String.ofList value)

/-- The entries of the environment. -/
def environment : IO (List (String × String)) := do
  try
    let bytes ← IO.FS.readBinFile "/proc/self/environ"
    return variablesOf bytes.toList
  catch _ =>
    let config ← IO.getEnv Settings.fileVariable
    return config.toList.map fun value => (Settings.fileVariable, value)

/-- The rest of a stream. -/
partial def readAll (stream : IO.FS.Stream) (before : ByteArray) : IO ByteArray := do
  let bytes ← stream.read 8192
  if bytes.isEmpty then return before else readAll stream (before ++ bytes)

/-- Whether a call reads a script from the standard input. -/
def readsInput (tree : FileTree) (words : List String) : Bool :=
  match CommandLine.Opening.ofWords words with
  | .ok { task := some (task, rest), .. } =>
    match CommandLine.Request.ofWords tree task rest with
    | .ok request => request.script = .standardInput
    | .error _ => false
  | _ => false

/-- The present moment, as it stands in the log. -/
def timeText : IO String := do
  let now := Std.Time.PlainDateTime.ofWallTime ((← Std.Time.Timestamp.now).toWallTime .zero)
  let day : Date := ⟨now.date.year.toInt.toNat, now.date.month.toNat, now.date.day.toNat⟩
  let clock : TimeOfDay :=
    ⟨now.time.hour.toNat, now.time.minute.toNat, now.time.second.toNat,
      now.time.nanosecond.toNat / 1000⟩
  return day.text ++ "T" ++ clock.text ++ "Z"

open scoped Text.FewEmoji

/-- One call of the program. -/
def call (words : List String) : IO UInt32 := do
  let entries ← environment
  let place := namesOf (← IO.currentDir).toString
  let paths := pathsOf place entries words
  let tree ← (Path.absolute place :: paths).foldlM addPath ⟨[], [], place⟩
  let input ←
    if readsInput tree words then readAll (← IO.getStdin) ByteArray.empty else pure ByteArray.empty
  let outcome := CommandLine.invoke { tree, environment := entries } input.toList words
  let errors := outcome.standardError (← timeText)
  (← IO.getStdout).putStr outcome.output
  (← IO.getStderr).putStr errors
  if let some crash := outcome.crash then
    (← IO.getStderr).putStrLn crash.message
  return outcome.exitCode.toUInt32

end Tabletop.Main

/-- The program. -/
def main (words : List String) : IO UInt32 :=
  Tabletop.Main.call words
