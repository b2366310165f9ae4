import Tabletop.CommandLine
import Tabletop.Proofs.Except
import Tabletop.Proofs.Files.Path

/-!
# The word for a file

A word that leads to a file means that file, whatever the standard input holds: the script of the
task is the file's, and the call leaves the same behind for any two inputs. This holds of every
spelling but those which the dash alone comes to when it is put in order as a path, such as a dash
after a dot and a slash; these stand for the standard input even where they lead to a file
(`script_of_file_word`).
-/

set_option autoImplicit false

namespace Tabletop.CommandLine

variable {around : Surroundings} {tree : FileTree} {input other : List UInt8}
  {settings : Settings} {task : Task} {request : Request} {script : Script} {title word : String}
  {words rest : List String} {read : Words}

/-- The task that a call names, with the words that belong to it. -/
def taskWords? (words : List String) : Option (Task × List String) :=
  (Opening.ofWords words).toOption.bind Opening.task

/-! ## What is done depends on what is around through the script alone -/

theorem carryOut_congr [Text.EmojiTable] {second : FileTree}
    (h : request.script.source tree input = request.script.source second other) :
    carryOut tree input settings request = carryOut second other settings request := by
  cases request with
  | run script width height =>
    simp only [Request.script] at h
    simp only [carryOut, run, h]
  | check script =>
    simp only [Request.script] at h
    simp only [carryOut, check, h]

/-- A call of which every request has a script of the same lines for two inputs leaves the same
behind for both. -/
theorem invoke_congr [Text.EmojiTable] (htask : taskWords? words = some (task, rest))
    (h : ∀ request, Request.ofWords around.tree task rest = .ok request →
      request.script.source around.tree input = request.script.source around.tree other) :
    invoke around input words = invoke around other words := by
  unfold invoke
  cases hopening : Opening.ofWords words with
  | error ending => rfl
  | ok opening =>
    dsimp only
    cases Settings.load around opening.config none opening.flags with
    | error failure => rfl
    | ok settings =>
      have hopened : opening.task = some (task, rest) := by
        rw [taskWords?, hopening] at htask
        exact htask
      rw [hopened]
      simp only [perform]
      cases hrequest : Request.ofWords around.tree task rest with
      | error ending => rfl
      | ok request => exact carryOut_congr (h request hrequest)

/-! ## The script of a word -/

theorem scriptOf_eq_ok (h : Request.scriptOf tree task title word = .ok script) :
    script = Script.ofWord word := by
  unfold Request.scriptOf at h
  split at h
  · cases h
    rfl
  · split at h
    · cases h
    · cases h
    · cases h
      rfl

theorem orEnding_eq_ok_iff {α : Type} {read : Except Fault α} {a : α} :
    Request.orEnding task read = .ok a ↔ read = .ok a := by
  cases read <;> simp [Request.orEnding]

/-- The words of a run make a request for one, with the sides that its switches give, and whose
script is that of the word for a file. -/
theorem exists_run_of_runOf (h : Request.runOf tree read = .ok request) :
    ∃ script width height, Request.sidesOf read = .ok (width, height) ∧
      request = .run script width height ∧
      ∀ word, read.others.head? = some word → script = Script.ofWord word := by
  obtain ⟨given, others⟩ := read
  obtain ⟨⟨width, height⟩, hsides, h⟩ := bind_eq_ok_iff.1 h
  have hsides := orEnding_eq_ok_iff.1 hsides
  cases others with
  | nil =>
    cases h
    exact ⟨_, width, height, hsides, rfl, nofun⟩
  | cons first behind =>
    obtain ⟨script, hscript, h⟩ := bind_eq_ok_iff.1 h
    obtain ⟨-, -, h⟩ := bind_eq_ok_iff.1 h
    cases h
    refine ⟨script, width, height, hsides, rfl, ?_⟩
    rintro word ⟨⟩
    exact scriptOf_eq_ok hscript

/-- The words of a check make a request for one, whose script is that of the word for a file. -/
theorem exists_check_of_checkOf (h : Request.checkOf tree read = .ok request) :
    ∃ script, request = .check script ∧
      ∀ word, read.others.head? = some word → script = Script.ofWord word := by
  obtain ⟨given, others⟩ := read
  cases others with
  | nil => cases h
  | cons first behind =>
    obtain ⟨script, hscript, h⟩ := bind_eq_ok_iff.1 h
    obtain ⟨-, -, h⟩ := bind_eq_ok_iff.1 h
    cases h
    refine ⟨script, rfl, ?_⟩
    rintro word ⟨⟩
    exact scriptOf_eq_ok hscript

/-- A request whose words name a file has the script that the first of them stands for. -/
theorem script_of_ofWords (hread : wordsOf (.task task) rest = .ok read)
    (hword : read.others.head? = some word)
    (h : Request.ofWords tree task rest = .ok request) :
    request.script = Script.ofWord word := by
  rw [Request.ofWords, hread] at h
  cases task with
  | run =>
    obtain ⟨script, width, height, -, rfl, hscript⟩ := exists_run_of_runOf h
    exact hscript word hword
  | check =>
    obtain ⟨script, rfl, hscript⟩ := exists_check_of_checkOf h
    exact hscript word hword

/-- A word that leads to a file is taken for a script. -/
theorem scriptOf_of_file {bytes : List UInt8} (hfile : tree.stat word = .ok (.file bytes)) :
    Request.scriptOf tree task title word = .ok (Script.ofWord word) := by
  unfold Request.scriptOf
  rw [hfile]
  split <;> rfl

/-- A word that leads to a file has the lines of that file, if it does not come to the dash. -/
theorem source_ofWord {bytes : List UInt8} (hfile : tree.stat word = .ok (.file bytes))
    (hdash : Path.ofText word ≠ Path.ofText Script.inputWord) (input : List UInt8) :
    (Script.ofWord word).source tree input = .ok (.ofFile bytes) := by
  simp only [Script.ofWord, if_neg hdash, Script.source, FileTree.read,
    Path.stat_text_ofText hfile]

theorem source_ofWord_dash (hdash : Path.ofText word = Path.ofText Script.inputWord)
    (input : List UInt8) : (Script.ofWord word).source tree input = .ok (.ofStrictInput input) := by
  simp only [Script.ofWord, if_pos hdash, Script.source]

/-- A word for a file that leads to one is taken for a script. It means that file, and then nothing
depends on the standard input, unless it comes to the dash when it is put in order; then it means
the standard input. -/
theorem script_of_file_word [Text.EmojiTable] {bytes : List UInt8}
    (htask : taskWords? words = some (task, rest))
    (hread : wordsOf (.task task) rest = .ok read) (hword : read.others.head? = some word)
    (hfile : around.tree.stat word = .ok (.file bytes)) :
    (∀ title, Request.scriptOf around.tree task title word = .ok (Script.ofWord word)) ∧
    (Path.ofText word ≠ Path.ofText Script.inputWord →
      (∀ input other, invoke around input words = invoke around other words) ∧
      ∀ request, Request.ofWords around.tree task rest = .ok request →
        ∀ input, request.script.source around.tree input = .ok (.ofFile bytes)) ∧
    (Path.ofText word = Path.ofText Script.inputWord →
      ∀ request, Request.ofWords around.tree task rest = .ok request →
        ∀ input, request.script.source around.tree input = .ok (.ofStrictInput input)) := by
  refine ⟨fun title => scriptOf_of_file hfile, ?_, ?_⟩
  · intro hdash
    have hsource (request : Request) (h : Request.ofWords around.tree task rest = .ok request)
        (input : List UInt8) : request.script.source around.tree input = .ok (.ofFile bytes) := by
      rw [script_of_ofWords hread hword h]
      exact source_ofWord hfile hdash input
    refine ⟨?_, hsource⟩
    intro input other
    apply invoke_congr htask
    intro request hrequest
    rw [hsource request hrequest, hsource request hrequest]
  · intro hdash request hrequest input
    rw [script_of_ofWords hread hword hrequest]
    exact source_ofWord_dash hdash input

/-- The bytes of a text. -/
def bytesOf (text : String) : List UInt8 :=
  text.toList.flatMap String.utf8EncodeChar

/-- A script in a directory, and one whose own name is a dash. -/
def fileNamedDash : Surroundings where
  tree :=
    { files :=
        [(["in", "west"], bytesOf "PLACE 0,0,WEST\nREPORT\n"),
          (["-"], bytesOf "PLACE 1,2,NORTH\nREPORT\n")]
      directories := [["in"]]
      workingDirectory := [] }
  environment := []

section

open scoped Text.FewEmoji

/-- A file that is found by a detour is read, whatever the standard input holds. -/
theorem run_detour :
    fileNamedDash.tree.stat "in/..//in/./west" = .ok (.file (bytesOf "PLACE 0,0,WEST\nREPORT\n")) ∧
      Path.ofText "in/..//in/./west" ≠ Path.ofText Script.inputWord ∧
      invoke fileNamedDash [] ["run", "in/..//in/./west"] =
        invoke fileNamedDash (bytesOf "REPORT\n") ["run", "in/..//in/./west"] ∧
      (invoke fileNamedDash [] ["run", "in/..//in/./west"]).output = "0,0,WEST\n" := by
  have hfile : fileNamedDash.tree.stat "in/..//in/./west" =
      .ok (.file (bytesOf "PLACE 0,0,WEST\nREPORT\n")) := by
    decide +kernel
  have hdash : Path.ofText "in/..//in/./west" ≠ Path.ofText Script.inputWord := by
    decide +kernel
  have htask : taskWords? ["run", "in/..//in/./west"] = some (.run, ["in/..//in/./west"]) := by
    decide +kernel
  have hread : wordsOf (.task .run) ["in/..//in/./west"] = .ok ⟨[], ["in/..//in/./west"]⟩ := by
    decide +kernel
  have hscript := script_of_file_word htask hread rfl hfile
  exact ⟨hfile, hdash, (hscript.2.1 hdash).1 _ _, by decide +kernel⟩

/-- A dash after a dot and a slash leads to the file whose name is a dash, and what is run comes
from the standard input all the same. -/
theorem run_dotted_dash :
    fileNamedDash.tree.stat "./-" = .ok (.file (bytesOf "PLACE 1,2,NORTH\nREPORT\n")) ∧
      (invoke fileNamedDash (bytesOf "PLACE 0,0,EAST\nREPORT\n") ["run", "./-"]).output =
        "0,0,EAST\n" ∧
      (invoke fileNamedDash [] ["run", "./-"]).output = "" := by
  decide +kernel

end

end Tabletop.CommandLine
