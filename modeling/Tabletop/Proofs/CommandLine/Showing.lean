import Tabletop.Proofs.CommandLine.Exit
import Tabletop.Proofs.CommandLine.Flagged

/-!
# How results are shown and what they come to

The words of a call that say how results and records are to be shown (`flagWords`) make the four
flags of its settings and nothing else (`ofWords_of_flags`). Neither of the two tasks looks at these
for what it does, so two calls that differ in such words alone end alike, wherever they end
(`invoke_endAlike`): with the same number, with the same standard output for a run, and for a check
with some standard output in both calls or in neither. Where a call comes to its script, this alone
tells how it ends (`ends_under_flags`).
-/

set_option autoImplicit false

namespace Tabletop.CommandLine

variable {around : Surroundings} {tree : FileTree} {input : List UInt8} {settings other : Settings}
  {opening : Opening} {request : Request} {word : String} {words front rest : List String}

/-! ## Words for flags -/

/-- The words of the program that say how results and records are to be shown. -/
def flagWords : List String :=
  ["--json", "-q", "--quiet", "-v", "--verbose", "--log-json"]

/-- The switches of these words. -/
def flagSwitches : List Switch :=
  [.json, .quiet, .verbose, .logJson]

/-- The words that name a file of settings, if one is named. -/
def configWords : Option String → List String
  | none => []
  | some name => ["--config", name]

/-- A word for a flag is one switch without a value. -/
theorem readWords_flag (h : word ∈ flagWords) (rest : List String) :
    ∃ switch ∈ flagSwitches, readWords .program (word :: rest) =
      Words.after [(switch, "")] <$> readWords .program rest := by
  have hwords : ∀ word ∈ flagWords, word ≠ "--" ∧ isSwitchWord word = true ∧
      ∃ switch ∈ flagSwitches, readSwitchWord .program word = .ok ⟨[(switch, "")], none⟩ := by
    decide +kernel
  obtain ⟨hdashes, hswitch, switch, hmem, hread⟩ := hwords word h
  refine ⟨switch, hmem, ?_⟩
  rw [readWords, if_neg hdashes, if_pos hswitch, hread]

theorem readWords_flags (h : ∀ word ∈ front, word ∈ flagWords) (rest : List String) :
    ∃ given : List (Switch × String), (∀ entry ∈ given, entry.1 ∈ flagSwitches) ∧
      readWords .program (front ++ rest) = Words.after given <$> readWords .program rest := by
  induction front with
  | nil =>
    refine ⟨[], by simp, ?_⟩
    rw [List.nil_append]
    cases readWords .program rest <;> rfl
  | cons word front ih =>
    obtain ⟨hword, hfront⟩ := List.forall_mem_cons.1 h
    obtain ⟨switch, hswitch, hfirst⟩ := readWords_flag hword (front ++ rest)
    obtain ⟨given, hgiven, hread⟩ := ih hfront
    refine ⟨(switch, "") :: given, List.forall_mem_cons.2 ⟨hswitch, hgiven⟩, ?_⟩
    rw [List.cons_append, hfirst, hread]
    cases readWords .program rest <;> rfl

/-- The switch for a file of settings, if one is named. -/
def configGiven (config : Option String) : List (Switch × String) :=
  config.toList.map fun name => (.config, name)

theorem readWords_config (config : Option String) (rest : List String) :
    readWords .program (configWords config ++ rest) =
      Words.after (configGiven config) <$> readWords .program rest := by
  cases config with
  | none =>
    change readWords .program rest = _
    cases readWords .program rest <;> rfl
  | some name =>
    have hread : readSwitchWord .program "--config" = .ok ⟨[], some (.config, "--config")⟩ := by
      decide +kernel
    change readWords .program ("--config" :: name :: rest) = _
    rw [readWords, if_neg (by decide), if_pos (by decide), hread]
    rfl

/-- The name of a task ends the words of the program. -/
theorem readWords_task (task : Task) (rest : List String) :
    readWords .program (task.name :: rest) = .ok ⟨[], task.name :: rest⟩ := by
  have hname : task.name ≠ "--" ∧ isSwitchWord task.name = false := by
    cases task <;> decide +kernel
  rw [readWords, if_neg hname.1, if_neg (by simp [hname.2]), if_pos rfl]

/-- Words for flags, a file of settings and a task are read as just these. -/
theorem readWords_call (h : ∀ word ∈ front, word ∈ flagWords) (config : Option String)
    (task : Task) (rest : List String) :
    ∃ given : List (Switch × String), (∀ entry ∈ given, entry.1 ∈ flagSwitches) ∧
      readWords .program (front ++ configWords config ++ task.name :: rest) =
        .ok ⟨given ++ configGiven config, task.name :: rest⟩ := by
  obtain ⟨given, hgiven, hread⟩ := readWords_flags h (configWords config ++ task.name :: rest)
  refine ⟨given, hgiven, ?_⟩
  rw [List.append_assoc, hread, readWords_config, readWords_task]
  simp only [Functor.map, Except.map, Words.after, List.append_nil]

section

variable {given : List (Switch × String)} (hgiven : ∀ entry ∈ given, entry.1 ∈ flagSwitches)
include hgiven

/-- No flag asks for a page, and neither does a file of settings. -/
theorem page?_call (config : Option String) (others : List String) :
    Words.page? .program ⟨given ++ configGiven config, others⟩ = none := by
  have hflags : ∀ switch ∈ flagSwitches, Scope.page? .program switch = none := by decide
  apply List.findSome?_eq_none_iff.2
  intro entry hentry
  rcases List.mem_append.1 hentry with hentry | hentry
  · exact hflags entry.1 (hgiven entry hentry)
  · obtain ⟨name, -, rfl⟩ := List.mem_map.1 hentry
    rfl

/-- The file of settings is the one that is named behind the flags. -/
theorem value?_call (config : Option String) (others : List String) :
    Words.value? ⟨given ++ configGiven config, others⟩ .config = config := by
  have hflags : ∀ switch ∈ flagSwitches, Switch.config ≠ switch := by decide
  -- the switch that was given last is looked for first
  rw [Words.value?, List.reverse_append]
  cases config with
  | none =>
    apply List.lookup_eq_none_iff.2
    intro entry hentry
    exact bne_iff_ne.2 (hflags entry.1 (hgiven entry (List.mem_reverse.1 hentry)))
  | some name => rfl

end

theorem ofWords_of_read {read : Words} {asked : Option (Task × List String)}
    (hread : readWords .program words = .ok read) (hpage : read.page? .program = none)
    (htask : Opening.taskOf read.others = .ok asked) :
    Opening.ofWords words =
      .ok ⟨read.has .json, read.has .quiet, read.has .verbose, read.has .logJson,
        read.value? .config, asked⟩ := by
  simp only [Opening.ofWords, wordsOf, hread, hpage, bind, Except.bind, htask]

theorem taskOf_name (task : Task) (rest : List String) :
    Opening.taskOf (task.name :: rest) = .ok (some (task, rest)) := by
  have hname : Task.ofName? task.name = some task := by cases task <;> decide +kernel
  rw [Opening.taskOf, hname]

/-- Words for flags before a task leave the task, its words and the file of the settings as they
are. -/
theorem ofWords_of_flags (h : ∀ word ∈ front, word ∈ flagWords) (config : Option String)
    (task : Task) (rest : List String) :
    ∃ opening, Opening.ofWords (front ++ configWords config ++ task.name :: rest) = .ok opening ∧
      opening.config = config ∧ opening.task = some (task, rest) := by
  obtain ⟨given, hgiven, hread⟩ := readWords_call h config task rest
  have hpage := page?_call hgiven config (task.name :: rest)
  refine ⟨_, ofWords_of_read hread hpage (taskOf_name task rest), ?_, rfl⟩
  exact value?_call hgiven config (task.name :: rest)

/-! ## Two calls -/

/-- The task of a request. -/
def Request.task : Request → Task
  | run .. => .run
  | check _ => .check

variable {task : Task}

/-- A request is one for the task whose words were read. -/
theorem task_of_ofWords (h : Request.ofWords tree task words = .ok request) :
    request.task = task := by
  obtain ⟨read, -, h⟩ := bind_eq_ok_iff.1 h
  cases task with
  | run =>
    obtain ⟨script, width, height, -, rfl, -⟩ := exists_run_of_runOf h
    rfl
  | check =>
    obtain ⟨script, rfl, -⟩ := exists_check_of_checkOf h
    rfl

/-- Two calls for a task end alike: with the same number, with the same standard output for a run,
and for a check with some standard output in both or in neither. -/
structure EndAlike (task : Task) (first second : Outcome) : Prop where
  exitCode : first.exitCode = second.exitCode
  output_run : task = .run → first.output = second.output
  output_check : task = .check → (first.output = "" ↔ second.output = "")

theorem EndAlike.of_eq {first second : Outcome} (hexit : first.exitCode = second.exitCode)
    (houtput : first.output = second.output) : EndAlike task first second where
  exitCode := hexit
  output_run _ := houtput
  output_check _ := by rw [houtput]

section

variable (hboard : settings.board = other.board) (hmode : settings.mode = other.mode)
include hboard hmode

/-- A request ends alike under settings with the same board and the same mode. -/
theorem carryOut_endAlike [Text.EmojiTable] (request : Request) :
    EndAlike request.task (carryOut tree input settings request)
      (carryOut tree input other request) := by
  cases request with
  | run script width height =>
    have hfirst := run_ends tree input settings (settings.board.resized width height) script
    have hsecond := run_ends tree input other (settings.board.resized width height) script
    rw [← hmode] at hsecond
    simp only [carryOut, ← hboard]
    exact .of_eq (hfirst.1.trans hsecond.1.symm) (hfirst.2.trans hsecond.2.symm)
  | check script =>
    have hrun : Request.task (.check script) ≠ .run := by
      intro h
      cases h
    -- what is written differs with the flags, but not whether anything is
    by_cases hpasses : script.Passes tree input settings.mode
    · have hfirst := check_of_passes hpasses
      rw [hmode] at hpasses
      have hsecond := check_of_passes hpasses
      exact
        { exitCode := hfirst.1.trans hsecond.1.symm
          output_run := fun h => absurd h hrun
          output_check := fun _ => iff_of_false hfirst.2 hsecond.2 }
    · have hfirst := check_of_not_passes hpasses
      rw [hmode] at hpasses
      have hsecond := check_of_not_passes hpasses
      exact
        { exitCode := hfirst.1.trans hsecond.1.symm
          output_run := fun h => absurd h hrun
          output_check := fun _ => iff_of_true hfirst.2 hsecond.2 }

/-- So does a task, whatever its words ask for. -/
theorem perform_endAlike [Text.EmojiTable] (task : Task) (rest : List String) :
    EndAlike task (perform tree input settings (some (task, rest)))
      (perform tree input other (some (task, rest))) := by
  simp only [perform]
  cases hrequest : Request.ofWords tree task rest with
  | error ending => exact .of_eq rfl rfl
  | ok request =>
    rw [← task_of_ofWords hrequest]
    exact carryOut_endAlike hboard hmode request

end

/-- Calls whose words name the same file of settings and ask for the same task end alike. -/
theorem invoke_endAlike [Text.EmojiTable] {first second : List String} {other : Opening}
    (hfirst : Opening.ofWords first = .ok opening) (hsecond : Opening.ofWords second = .ok other)
    (hconfig : opening.config = other.config) (hopening : opening.task = some (task, rest))
    (hother : other.task = some (task, rest)) :
    EndAlike task (invoke around input first) (invoke around input second) := by
  -- the settings of the second call are those of the first but for the flags, or fail as they do
  have hload := load_flagged around opening.config none opening other
  simp only [invoke, hfirst, hsecond, ← hconfig, hload]
  cases Settings.load around opening.config none opening.flags with
  | error failure => exact .of_eq rfl rfl
  | ok settings =>
    simp only [Functor.map, Except.map, hopening, hother]
    have hboard : settings.board = (settings.flagged other).board := rfl
    exact perform_endAlike hboard rfl task rest

/-! ## How calls end -/

theorem invoke_eq_carryOut [Text.EmojiTable] (hopening : Opening.ofWords words = .ok opening)
    (hload : Settings.load around opening.config none opening.flags = .ok settings)
    (htask : opening.task = some (task, rest))
    (hrequest : Request.ofWords around.tree task rest = .ok request) :
    invoke around input words = carryOut around.tree input settings request := by
  simp only [invoke, hopening, hload, perform, htask, hrequest]

/-- A run ends well just if its script holds a text. -/
theorem exitCode_carryOut_run [Text.EmojiTable] (h : request.task = .run) :
    (carryOut tree input settings request).exitCode = 0 ↔
      ∃ text, request.script.Holds tree input text := by
  cases request with
  | run script width height =>
    have hexit := (run_ends tree input settings (settings.board.resized width height) script).1
    rw [carryOut, hexit, Request.script, ← failure_reading_eq_none_iff]
    split
    · rename_i hread
      exact iff_of_true rfl hread
    · rename_i hread
      exact iff_of_false Nat.one_ne_zero hread
  | check script => cases h

/-- A check ends well just if its script holds a text without malformed lines, and it writes to the
standard output just then. -/
theorem ends_carryOut_check [Text.EmojiTable] (h : request.task = .check) :
    ((carryOut tree input settings request).exitCode = 0 ↔
      ∃ text, request.script.Holds tree input text ∧
        ∀ line ∈ (Text.lines text).map String.ofList, line.toList.all Text.isBlank = true ∨
          ∃ command, parse settings.mode line = .ok command) ∧
      ((carryOut tree input settings request).output = "" ↔
        (carryOut tree input settings request).exitCode ≠ 0) := by
  cases request with
  | run script width height => cases h
  | check script =>
    rw [carryOut, Request.script, ← passes_iff]
    by_cases hpasses : script.Passes tree input settings.mode
    · obtain ⟨hexit, houtput⟩ := check_of_passes hpasses
      exact ⟨iff_of_true hexit hpasses, iff_of_false houtput (not_not_intro hexit)⟩
    · obtain ⟨hexit, houtput⟩ := check_of_not_passes hpasses
      have hne : (check tree input settings script).exitCode ≠ 0 := by
        rw [hexit]
        exact Nat.one_ne_zero
      exact ⟨iff_of_false hne hpasses, iff_of_true houtput hne⟩

/-- The words that say how results and records are to be shown change nothing of how a call ends,
whatever is found around it and whatever its other words are. With settings and a request, a run
ends well just if its script can be opened and is in UTF-8, whatever lines it holds; a check ends
well just if moreover no line is malformed, and it leaves the standard output empty just if it does
not end well. -/
theorem ends_under_flags [Text.EmojiTable] (around : Surroundings) (input : List UInt8)
    (config : Option String) (task : Task) (rest : List String) :
    let words (flags : List String) := flags ++ configWords config ++ task.name :: rest
    let call (flags : List String) := invoke around input (words flags)
    (∀ first second : List String, (∀ word ∈ first, word ∈ flagWords) →
      (∀ word ∈ second, word ∈ flagWords) → EndAlike task (call first) (call second)) ∧
    ∀ (flags : List String) (opening : Opening) (settings : Settings) (request : Request),
      (∀ word ∈ flags, word ∈ flagWords) →
      Opening.ofWords (words flags) = .ok opening →
      Settings.load around config none opening.flags = .ok settings →
      Request.ofWords around.tree task rest = .ok request →
        (task = .run → ((call flags).exitCode = 0 ↔
          ∃ text, request.script.Holds around.tree input text)) ∧
        (task = .check →
          ((call flags).exitCode = 0 ↔ ∃ text, request.script.Holds around.tree input text ∧
            ∀ line ∈ (Text.lines text).map String.ofList, line.toList.all Text.isBlank = true ∨
              ∃ command, parse settings.mode line = .ok command) ∧
          ((call flags).output = "" ↔ (call flags).exitCode ≠ 0)) := by
  intro words call
  constructor
  · intro first second hfirst hsecond
    obtain ⟨opening, hopening, hconfig, htask⟩ := ofWords_of_flags hfirst config task rest
    obtain ⟨other, hother, hotherConfig, hotherTask⟩ := ofWords_of_flags hsecond config task rest
    exact invoke_endAlike hopening hother (hconfig.trans hotherConfig.symm) htask hotherTask
  · intro flags opening settings request hflags hopening hload hrequest
    -- what the words are read as names the file of the settings and the task
    obtain ⟨read, hread, hconfig, htask⟩ := ofWords_of_flags hflags config task rest
    obtain rfl : read = opening := Except.ok.inj (hread.symm.trans hopening)
    rw [← hconfig] at hload
    have hcall : call flags = carryOut around.tree input settings request :=
      invoke_eq_carryOut hopening hload htask hrequest
    have hkind := task_of_ofWords hrequest
    rw [hcall]
    constructor
    · intro hrun
      exact exitCode_carryOut_run (hkind.trans hrun)
    · intro hcheck
      exact ends_carryOut_check (hkind.trans hcheck)

/-- A place with a script of which one line is malformed. -/
def oneMalformed : Surroundings where
  tree :=
    { files := [(["walk.txt"], bytesOf "PLACE 1,1,NORTH\nJUMP\nREPORT\n")]
      directories := []
      workingDirectory := [] }
  environment := []

/-- What calls on that script ask for, with records as JSON or on one line. -/
def askingFor (asLine : Bool) (task : Task) : Opening where
  jsonOutput := false
  quiet := asLine
  verbose := !asLine
  logJson := !asLine
  config := none
  task := some (task, ["walk.txt"])

section

open scoped Text.FewEmoji

/-- A script with a malformed line is run to a good end. A check of it ends in a failure and with
nothing on the standard output, whatever way of showing is asked for. -/
theorem ends_under_flags_malformed :
    (invoke oneMalformed [] ["-v", "--log-json", "run", "walk.txt"]).exitCode = 0 ∧
      EndAlike .check (invoke oneMalformed [] ["--json", "-v", "check", "walk.txt"])
        (invoke oneMalformed [] ["-q", "check", "walk.txt"]) ∧
      (invoke oneMalformed [] ["-q", "check", "walk.txt"]).exitCode = 1 ∧
      (invoke oneMalformed [] ["-q", "check", "walk.txt"]).output = "" := by
  have hrunOpening : Opening.ofWords ["-v", "--log-json", "run", "walk.txt"] =
      .ok (askingFor false .run) := by
    decide +kernel
  have hcheckOpening : Opening.ofWords ["-q", "check", "walk.txt"] =
      .ok (askingFor true .check) := by
    decide +kernel
  have hload (asLine : Bool) (task : Task) :
      Settings.load oneMalformed none none (askingFor asLine task).flags =
        .ok ⟨none, false, asLine, !asLine, !asLine, Board.standard, .strict⟩ := by
    apply eq_ok_of_toOption
    cases asLine <;> cases task <;> decide +kernel
  have hrunRequest : Request.ofWords oneMalformed.tree .run ["walk.txt"] =
      .ok (.run (.file (Path.ofText "walk.txt")) none none) := by
    decide +kernel
  have hcheckRequest : Request.ofWords oneMalformed.tree .check ["walk.txt"] =
      .ok (.check (.file (Path.ofText "walk.txt"))) := by
    decide +kernel
  have hholds : Script.Holds oneMalformed.tree [] (.file (Path.ofText "walk.txt"))
      "PLACE 1,1,NORTH\nJUMP\nREPORT\n".toList :=
    eq_ok_of_toOption (by decide +kernel)
  have hexit : (invoke oneMalformed [] ["-q", "check", "walk.txt"]).exitCode = 1 := by
    decide +kernel
  obtain ⟨-, hrun⟩ := ends_under_flags oneMalformed [] none .run ["walk.txt"]
  obtain ⟨halike, hcheck⟩ := ends_under_flags oneMalformed [] none .check ["walk.txt"]
  have hrunEnds := (hrun ["-v", "--log-json"] _ _ _ (by decide) hrunOpening
    (hload false .run) hrunRequest).1 rfl
  have hcheckEnds := (hcheck ["-q"] _ _ _ (by decide) hcheckOpening
    (hload true .check) hcheckRequest).2 rfl
  refine ⟨hrunEnds.2 ⟨_, hholds⟩, halike ["--json", "-v"] ["-q"] (by decide) (by decide), hexit, ?_⟩
  apply hcheckEnds.2.2
  exact fun h => absurd (h.symm.trans hexit) (by decide)

end

end Tabletop.CommandLine
