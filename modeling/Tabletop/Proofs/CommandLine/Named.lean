import Tabletop.Proofs.CommandLine.Script
import Tabletop.Proofs.Files.Alike
import Tabletop.Proofs.Settings.Escape
import Tabletop.Proofs.Settings.Ignored

/-!
# The named settings file

A call may name its settings file. Two worlds that differ in the variable for such a file and in
files of the usual name (`AlikeButUsual`) then look the same to it, from the words of the task to
the last line of the script (`invoke_alike`).

What decides between the three places for a settings file is whether a name is empty, not whether it
was given, so that an empty name leads to the other two (`replaced_empty_name`).
-/

set_option autoImplicit false

namespace Tabletop.CommandLine

open Settings (locate)

variable {first second around : Surroundings} {input : List UInt8} {words : List String}
  {opening : Opening} {name : String} {settings : Settings} {task : Task}

/-! ## Worlds that differ in what a named file leaves out -/

/-- Where a file of the usual name is looked for: in the working directory and upwards. -/
def usualPlaces (tree : FileTree) : List (List String) :=
  (FileTree.upwards tree.workingDirectory).map fun place => place ++ [Settings.fileName]

/-- Surroundings that differ in the variable for a settings file and in files of the usual name, and
in nothing else that counts: texts may be nested as deep in the one as in the other. -/
structure AlikeButUsual (first second : Surroundings) : Prop where
  tree : FileTree.AlikeBut (usualPlaces first.tree) first.tree second.tree
  environment : Settings.counting first.environment = Settings.counting second.environment
  nesting : first.nesting = second.nesting

/-- The lines of the script that a call asks for are the same in both surroundings. -/
def SameScript (first second : Surroundings) (input : List UInt8) (words : List String) : Prop :=
  ∀ task rest request, taskWords? words = some (task, rest) →
    Request.ofWords first.tree task rest = .ok request →
      request.script.source first.tree input = request.script.source second.tree input

theorem scriptOf_alike (h : AlikeButUsual first second) (task : Task) (title word : String) :
    Request.scriptOf first.tree task title word = Request.scriptOf second.tree task title word := by
  unfold Request.scriptOf
  by_cases hdash : word = Script.inputWord
  · rw [if_pos hdash, if_pos hdash]
  · rw [if_neg hdash, if_neg hdash]
    rcases FileTree.stat_alike h.tree word with hsame | ⟨hfirst, hsecond⟩
    · rw [hsame]
    · -- a word for the script is refused for what it leads to only if that is a directory
      generalize first.tree.stat word = reached at hfirst
      generalize second.tree.stat word = other at hsecond
      cases hfirst <;> cases hsecond <;> rfl

theorem request_alike (h : AlikeButUsual first second) (task : Task) (rest : List String) :
    Request.ofWords first.tree task rest = Request.ofWords second.tree task rest := by
  simp only [Request.ofWords, Request.runOf, Request.checkOf, scriptOf_alike h]

/-! ## The file that is gone by -/

theorem locate_named (hname : name ≠ "") (around : Surroundings) (start : Option Path) :
    locate around (some name) start =
      match around.tree.isFile (Path.ofText name) with
      | .error failure => .error (.unfollowed failure)
      | .ok true => .ok (some (Path.ofText name))
      | .ok false => .error (.noFile (Path.ofText name)) := by
  apply Settings.locate_of_named
  simp [Settings.namedFile?, hname]

/-- An empty name is taken for none. -/
theorem load_empty (around : Surroundings) (start : Option Path) (flags : Fields) :
    Settings.load around (some "") start flags = Settings.load around none start flags :=
  rfl

/-- Settings of a named file are the same in both surroundings, if the file is. -/
theorem load_alike (h : AlikeButUsual first second) (hname : name ≠ "")
    (hread : ∀ bytes, first.tree.read (Path.ofText name) = .ok bytes ↔
      second.tree.read (Path.ofText name) = .ok bytes) (start : Option Path) (flags : Fields) :
    Settings.load first (some name) start flags = Settings.load second (some name) start flags := by
  unfold Settings.load
  rw [locate_named hname, locate_named hname, FileTree.isFile_alike h.tree hread,
    Settings.environmentLayer_congr h.environment, h.nesting]
  cases hfile : second.tree.isFile (Path.ofText name) with
  | error failure => rfl
  | ok isFile =>
    cases isFile with
    | false => rfl
    | true =>
      obtain ⟨bytes, hbytes⟩ := FileTree.isFile_eq_true_iff.1 hfile
      simp only [bind, Except.bind, Settings.fileLayer, hbytes, (hread bytes).2 hbytes]

/-- A call that names a settings file leaves the same behind in both surroundings. -/
theorem invoke_alike [Text.EmojiTable] (h : AlikeButUsual first second) (hname : name ≠ "")
    (hconfig : ∀ opening, Opening.ofWords words = .ok opening → opening.config = some name)
    (hread : ∀ bytes, first.tree.read (Path.ofText name) = .ok bytes ↔
      second.tree.read (Path.ofText name) = .ok bytes)
    (hscript : SameScript first second input words) :
    invoke first input words = invoke second input words := by
  unfold invoke
  -- the words are the same, so the worlds can differ first in the settings, then in the script
  cases hopening : Opening.ofWords words with
  | error ending => rfl
  | ok opening =>
    dsimp only
    rw [hconfig opening hopening, load_alike h hname hread]
    cases Settings.load second (some name) none opening.flags with
    | error failure => rfl
    | ok settings =>
      dsimp only [perform]
      cases htask : opening.task with
      | none => rfl
      | some asked =>
        obtain ⟨task, rest⟩ := asked
        have hwords : taskWords? words = some (task, rest) := by
          rw [taskWords?, hopening]
          exact htask
        have hrequests := request_alike h task rest
        dsimp only
        cases hrequest : Request.ofWords first.tree task rest with
        | error ending => rw [← hrequests, hrequest]
        | ok request =>
          rw [← hrequests, hrequest]
          exact carryOut_congr (hscript task rest request hwords hrequest)

theorem configPath_of_fields {path : Option Path} {fields : Fields}
    (h : Settings.ofFields path fields = .ok settings) : settings.configPath = path := by
  obtain ⟨read, -, rfl⟩ := Validated.bind_ok_eq_ok_iff.1 (show _ >>= _ = _ from h)
  rfl

/-- A call goes by a settings file: the file is the one that is located, and settings that are put
together come from its tables. -/
structure GoesBy (around : Surroundings) (opening : Opening) (path : Path) : Prop where
  located : locate around opening.config none = .ok (some path)
  settings : ∀ settings,
    Settings.load around opening.config none opening.flags = .ok settings →
      settings.configPath = some path ∧
        ∃ file environment,
          Settings.fileLayer around.nesting.toml around.tree (some path) = .ok file ∧
          Settings.environmentLayer around.nesting.json around.environment = .ok environment ∧
          Settings.ofFields (some path)
            (Settings.givable (Settings.merge [opening.flags, environment, file])) = .ok settings

theorem goesBy_of_located {path : Path} (h : locate around opening.config none = .ok (some path)) :
    GoesBy around opening path where
  located := h
  settings := by
    intro settings hload
    obtain ⟨found, file, environment, hfound, hfile, henvironment, hfields⟩ :=
      Settings.exists_layers_of_load hload
    cases h.symm.trans hfound
    exact ⟨configPath_of_fields hfields, file, environment, hfile, henvironment, hfields⟩

theorem invoke_of_unlocated [Text.EmojiTable] {failure : SettingsFailure}
    (hopening : Opening.ofWords words = .ok opening)
    (h : locate around opening.config none = .error failure) (input : List UInt8) :
    invoke around input words = unsettled failure := by
  simp only [invoke, hopening, Settings.load_of_unlocated h]

/-- A settings file that a call names is never replaced by another one, unless its name is empty.
Calls in surroundings that differ in the variable for a settings file and in other files of the
usual name leave the same behind. If the file can be read, the call goes by it; if there is none,
the call ends in saying so, and if its name is too long to be looked up, in that. An empty name is
taken for none at all. -/
theorem named_file_not_replaced [Text.EmojiTable]
    (hconfig : ∀ opening, Opening.ofWords words = .ok opening → opening.config = some name) :
    (name ≠ "" →
      (∀ first second input, AlikeButUsual first second →
        (∀ bytes, first.tree.read (Path.ofText name) = .ok bytes ↔
          second.tree.read (Path.ofText name) = .ok bytes) →
        SameScript first second input words →
          invoke first input words = invoke second input words) ∧
      ∀ around input opening, Opening.ofWords words = .ok opening →
        let path := Path.ofText name
        ((∃ bytes, around.tree.read path = .ok bytes) → GoesBy around opening path) ∧
        ((∀ bytes, around.tree.read path ≠ .ok bytes) →
          invoke around input words =
            if around.tree.stat path.text = .error .nameTooLong then
              Outcome.crashed (.unsettled (.unfollowed ⟨.nameTooLong, path.text⟩))
            else
              { exitCode := 1
                errors := Display.echo ("Error: " ++ ("Config file not found: " ++ path.text)) })) ∧
    (name = "" → ∀ around opening, Opening.ofWords words = .ok opening →
      Settings.load around opening.config none opening.flags =
        Settings.load around none none opening.flags) := by
  refine ⟨fun hname => ⟨?_, ?_⟩, ?_⟩
  · intro first second input h hread hscript
    exact invoke_alike h hname hconfig hread hscript
  · intro around input opening hopening path
    have hlocate := locate_named hname around none
    rw [← hconfig opening hopening] at hlocate
    constructor
    · intro hbytes
      rw [FileTree.isFile_eq_true_iff.2 hbytes] at hlocate
      exact goesBy_of_located hlocate
    · intro hnone
      split
      · rename_i hlong
        have hfile : around.tree.isFile path = .error ⟨.nameTooLong, path.text⟩ := by
          simp only [FileTree.isFile, hlong]
        rw [hfile] at hlocate
        exact invoke_of_unlocated hopening hlocate input
      · rename_i hlong
        rw [FileTree.isFile_of_unread hnone hlong] at hlocate
        exact invoke_of_unlocated hopening hlocate input
  · rintro rfl around opening hopening
    rw [hconfig opening hopening, load_empty]

/-- A directory with a script and an empty settings file of a name of its own. -/
def givenFile : Surroundings where
  tree :=
    { files := [(["s.txt"], bytesOf "PLACE 0,0,NORTH\n"), (["given.toml"], [])]
      directories := []
      workingDirectory := [] }
  environment := []

/-- The same with a file of the usual name that is no text, and a variable for one that is not
there. -/
def withDecoys : Surroundings where
  tree := { givenFile.tree with files := ([Settings.fileName], [0xFF]) :: givenFile.tree.files }
  environment := [("ROBOSIM_CONFIG", "nope.toml")]

/-- What a check of the script asks for that names a settings file. -/
def checkWith (name : String) : Opening where
  jsonOutput := false
  quiet := false
  verbose := false
  logJson := false
  config := some name
  task := some (.check, ["s.txt"])

theorem alike_decoys : AlikeButUsual givenFile withDecoys where
  tree := by
    have hplaces : usualPlaces givenFile.tree = [[Settings.fileName]] := by decide
    rw [hplaces]
    refine ⟨rfl, ?_, ?_⟩
    · intro place hplace
      have hne : (place == [Settings.fileName]) = false :=
        beq_eq_false_iff_ne.2 (mt List.mem_singleton.2 hplace)
      simp only [FileTree.node?, withDecoys, List.lookup_cons, hne]
    · intro place hplace
      rw [List.mem_singleton.1 hplace]
      decide
  environment := by decide
  nesting := rfl

theorem sameScript_decoys (name : String)
    (h : taskWords? ["--config", name, "check", "s.txt"] = some (.check, ["s.txt"])) :
    SameScript givenFile withDecoys [] ["--config", name, "check", "s.txt"] := by
  intro task rest request htask hrequest
  cases h.symm.trans htask
  have hcheck : Request.ofWords givenFile.tree .check ["s.txt"] =
      .ok (.check (.file (Path.ofText "s.txt"))) := by
    decide +kernel
  cases hcheck.symm.trans hrequest
  have hgiven' : givenFile.tree.read (Path.ofText "s.txt") = .ok (bytesOf "PLACE 0,0,NORTH\n") :=
    eq_ok_of_toOption (by decide +kernel)
  have hdecoy : withDecoys.tree.read (Path.ofText "s.txt") = .ok (bytesOf "PLACE 0,0,NORTH\n") :=
    eq_ok_of_toOption (by decide +kernel)
  simp only [Request.script, Script.source, hgiven', hdecoy]

section

open scoped Text.FewEmoji

/-- An empty name keeps neither the defaults out nor what a variable names: two calls that give it
end in different ways. -/
theorem replaced_empty_name :
    Opening.ofWords ["--config", "", "check", "s.txt"] = .ok (checkWith "") ∧
      AlikeButUsual givenFile withDecoys ∧
      SameScript givenFile withDecoys [] ["--config", "", "check", "s.txt"] ∧
      locate givenFile (checkWith "").config none = .ok none ∧
      (invoke givenFile [] ["--config", "", "check", "s.txt"]).exitCode = 0 ∧
      (invoke withDecoys [] ["--config", "", "check", "s.txt"]).exitCode = 1 := by
  refine ⟨by decide +kernel, alike_decoys, sameScript_decoys "" (by decide +kernel), ?_,
    by decide +kernel, by decide +kernel⟩
  exact eq_ok_of_toOption (by decide +kernel)

/-- A settings file that is named is gone by whatever the variable names and the file of the usual
name holds, and one that is not there is missed. -/
theorem named_file_not_replaced_decoys :
    invoke givenFile [] ["--config", "given.toml", "check", "s.txt"] =
        invoke withDecoys [] ["--config", "given.toml", "check", "s.txt"] ∧
      GoesBy withDecoys (checkWith "given.toml") (Path.ofText "given.toml") ∧
      invoke withDecoys [] ["--config", "gone.toml", "check", "s.txt"] =
        { exitCode := 1
          errors := Display.echo ("Error: " ++
            ("Config file not found: " ++ (Path.ofText "gone.toml").text)) } ∧
      Settings.load withDecoys (some "") none (checkWith "").flags =
        Settings.load withDecoys none none (checkWith "").flags := by
  have hopening (name : String) (h : name ∈ ["given.toml", "gone.toml", ""]) :
      Opening.ofWords ["--config", name, "check", "s.txt"] = .ok (checkWith name) := by
    simp only [List.mem_cons, List.not_mem_nil, or_false] at h
    rcases h with rfl | rfl | rfl <;> decide +kernel
  have hconfig (name : String) (h : name ∈ ["given.toml", "gone.toml", ""]) (opening : Opening)
      (hwords : Opening.ofWords ["--config", name, "check", "s.txt"] = .ok opening) :
      opening.config = some name := by
    cases (hopening name h).symm.trans hwords
    rfl
  have hgiven' : givenFile.tree.read (Path.ofText "given.toml") = .ok [] :=
    eq_ok_of_toOption (by decide +kernel)
  have hdecoy : withDecoys.tree.read (Path.ofText "given.toml") = .ok [] :=
    eq_ok_of_toOption (by decide +kernel)
  have hnone : (withDecoys.tree.read (Path.ofText "gone.toml")).toOption = none := by
    decide +kernel
  have hshort : withDecoys.tree.stat (Path.ofText "gone.toml").text ≠ .error .nameTooLong := by
    decide +kernel
  obtain ⟨hgiven, -⟩ := named_file_not_replaced (hconfig "given.toml" (by decide))
  obtain ⟨hgone, -⟩ := named_file_not_replaced (hconfig "gone.toml" (by decide))
  obtain ⟨-, hempty⟩ := named_file_not_replaced (hconfig "" (by decide))
  obtain ⟨hsame, hfile⟩ := hgiven (by decide)
  obtain ⟨-, hmissing⟩ := hgone (by decide)
  refine ⟨?_, ?_, ?_, ?_⟩
  · exact hsame givenFile withDecoys [] alike_decoys (fun bytes => by rw [hgiven', hdecoy])
      (sameScript_decoys "given.toml" (by decide +kernel))
  · exact (hfile withDecoys [] (checkWith "given.toml") (hopening _ (by decide))).1 ⟨[], hdecoy⟩
  · have hgone := (hmissing withDecoys [] (checkWith "gone.toml") (hopening _ (by decide))).2
      fun bytes hbytes => by simp [hbytes, Except.toOption] at hnone
    rwa [if_neg hshort] at hgone
  · exact hempty rfl withDecoys (checkWith "") (hopening "" (by decide))

end

end Tabletop.CommandLine
