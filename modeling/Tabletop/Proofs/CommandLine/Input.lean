import Tabletop.Proofs.CommandLine.Showing
import Tabletop.Proofs.Display.ReadBack
import Tabletop.Proofs.Source.Memory

/-!
# A file and the standard input

A script is read alike whether its bytes stand in a file or come over the standard input. A call
that names the file and a call that leaves it out, or has a dash for it, therefore leave the same
behind (`Twins.same`), but where the bytes cannot be read to their end: then the name of the script
is told with the failure, and the two calls differ in that name alone (`Twins.unread`).

`file_alike_input` says so of whole calls, with any words for the program as a whole and any
switches of the task before and after the name of the file, and of texts in memory whose line ends
are paired.
-/

set_option autoImplicit false

namespace Tabletop.CommandLine

variable {around : Surroundings} {tree : FileTree} {input other : List UInt8} {settings : Settings}
  {scope : Scope} {task : Task} {request : Request} {script twin : Script}
  {front words named unnamed : List String} {flags given : List (Switch × String)} {word : String}

/-! ## Words after switches -/

theorem after_nil (read : Except Fault Words) : Words.after [] <$> read = read := by
  cases read <;> rfl

theorem exists_of_after_eq_ok {first : List (Switch × String)} {read : Except Fault Words}
    (h : Words.after first <$> read = .ok ⟨given, []⟩) :
    ∃ behind, read = .ok ⟨behind, []⟩ ∧ given = first ++ behind := by
  cases read with
  | error fault => cases h
  | ok words =>
    obtain ⟨behind, others⟩ := words
    cases h
    exact ⟨behind, rfl, rfl⟩

theorem after_after (first second : List (Switch × String)) (read : Except Fault Words) :
    Words.after first <$> Words.after second <$> read = Words.after (first ++ second) <$> read := by
  cases read with
  | error fault => rfl
  | ok words => simp only [Functor.map, Except.map, Words.after, List.append_assoc]

/-- A switch before words that were read as they are, or as they would be by themselves, leaves
that so. -/
theorem after_of_read {first second : List (Switch × String)} {whole own : Except Fault Words}
    (h : whole = .ok ⟨second, words⟩ ∨ whole = Words.after second <$> own) :
    Words.after first <$> whole = .ok ⟨first ++ second, words⟩ ∨
      Words.after first <$> whole = Words.after (first ++ second) <$> own := by
  rcases h with rfl | rfl
  · exact .inl rfl
  · exact .inr (after_after first second own)

/-- Behind words that are switches all other words are read as they would be by themselves, or two
dashes came before them and none of them is a switch. -/
theorem readWords_append (h : readWords scope front = .ok ⟨given, []⟩) (words : List String) :
    readWords scope (front ++ words) = .ok ⟨given, words⟩ ∨
      readWords scope (front ++ words) = Words.after given <$> readWords scope words := by
  fun_induction readWords scope front generalizing given with
  | case1 =>
    cases h
    exact .inr (after_nil _).symm
  | case2 rest =>
    -- two dashes: what follows is taken as it is
    cases h
    left
    rw [List.singleton_append, readWords, if_pos rfl]
  | case3 word rest hdashes hswitch fault hread => cases h
  | case4 word rest hdashes hswitch first hread ih =>
    obtain ⟨behind, hrest, rfl⟩ := exists_of_after_eq_ok h
    rw [List.cons_append, readWords, if_neg hdashes, if_pos hswitch, hread]
    exact after_of_read (ih hrest)
  | case5 word hdashes hswitch first switch name hread => cases h
  | case6 word hdashes hswitch first switch name hread value rest ih =>
    obtain ⟨behind, hrest, rfl⟩ := exists_of_after_eq_ok h
    rw [List.cons_append, List.cons_append, readWords, if_neg hdashes, if_pos hswitch, hread]
    exact after_of_read (ih hrest)
  | case7 word rest => cases h
  | case8 word rest hdashes hswitch hscope ih =>
    cases hrest : readWords scope rest with
    | error fault =>
      rw [hrest] at h
      cases h
    | ok read =>
      rw [hrest] at h
      cases h

/-- Switches before a task are all that the words of the program as a whole are read as. -/
theorem readWords_front (h : readWords .program front = .ok ⟨flags, []⟩) (task : Task)
    (words : List String) :
    readWords .program (front ++ task.name :: words) = .ok ⟨flags, task.name :: words⟩ := by
  rcases readWords_append h (task.name :: words) with hread | hread
  · exact hread
  · rw [hread, readWords_task]
    simp only [Functor.map, Except.map, Words.after, List.append_nil]

/-- Words of a task are asked about under the same opening, whatever they are, or none is. -/
theorem ofWords_front (h : readWords .program front = .ok ⟨flags, []⟩) (task : Task) :
    (∃ ending, ∀ words, Opening.ofWords (front ++ task.name :: words) = .error ending) ∨
      ∃ opening : Opening, opening.jsonOutput = Words.has ⟨flags, []⟩ .json ∧
        ∀ words, Opening.ofWords (front ++ task.name :: words) =
          .ok { opening with task := some (task, words) } := by
  cases hpage : Words.page? .program ⟨flags, []⟩ with
  | some text =>
    left
    refine ⟨.page text, ?_⟩
    intro words
    have hasked : Words.page? .program ⟨flags, task.name :: words⟩ = some text := hpage
    simp only [Opening.ofWords, wordsOf, readWords_front h, hasked, bind, Except.bind]
  | none =>
    -- whether a switch was given does not depend on the words behind the switches
    let read : Words := ⟨flags, []⟩
    let opening : Opening :=
      ⟨read.has .json, read.has .quiet, read.has .verbose, read.has .logJson, read.value? .config,
        none⟩
    refine .inr ⟨opening, rfl, ?_⟩
    intro words
    have hwords := ofWords_of_read (readWords_front h task words) hpage (taskOf_name task words)
    exact hwords

/-! ## The request for a script -/

/-- The words that stand for the standard input where a task looks for a file. -/
def inputWords : Task → List String
  | .run => []
  | .check => [Script.inputWord]

/-- A request for another script. -/
def Request.withScript (script : Script) : Request → Request
  | run _ width height => run script width height
  | check _ => check script

/-- What the switches of a task ask to be done with a script. -/
def Request.asked (task : Task) (given : List (Switch × String)) (script : Script) :
    Except Ending Request :=
  match Words.page? (.task task) ⟨given, []⟩ with
  | some text => .error (.page text)
  | none =>
    match task with
    | .run => (fun sides => .run script sides.1 sides.2) <$> orEnding .run (sidesOf ⟨given, []⟩)
    | .check => .ok (.check script)

/-- The same is asked to be done with every script, or nothing with any. -/
theorem asked_eq (task : Task) (given : List (Switch × String)) :
    (∃ ending, ∀ script, Request.asked task given script = .error ending) ∨
      ∃ request : Request, request.task = task ∧
        ∀ script, Request.asked task given script = .ok (request.withScript script) := by
  cases hpage : Words.page? (.task task) ⟨given, []⟩ with
  | some text => exact .inl ⟨.page text, fun script => by simp only [Request.asked, hpage]⟩
  | none =>
    cases task with
    | check =>
      refine .inr ⟨.check .standardInput, rfl, fun script => ?_⟩
      simp only [Request.asked, hpage, Request.withScript]
    | run =>
      cases hsides : Request.orEnding .run (Request.sidesOf ⟨given, []⟩) with
      | error ending =>
        refine .inl ⟨ending, fun script => ?_⟩
        simp only [Request.asked, hpage, hsides, Functor.map, Except.map]
      | ok sides =>
        refine .inr ⟨.run .standardInput sides.1 sides.2, rfl, fun script => ?_⟩
        simp only [Request.asked, hpage, hsides, Functor.map, Except.map, Request.withScript]

/-- Switches and one word for a file ask for the script of that word. -/
theorem ofWords_of_word (hread : readWords (.task task) words = .ok ⟨given, [word]⟩)
    (hscript : ∀ title, Request.scriptOf tree task title word = .ok script) :
    Request.ofWords tree task words = Request.asked task given script := by
  have hsame : Words.page? (.task task) ⟨given, [word]⟩ = Words.page? (.task task) ⟨given, []⟩ :=
    rfl
  simp only [Request.ofWords, wordsOf, hread, hsame, Request.asked]
  cases Words.page? (.task task) ⟨given, []⟩ with
  | some text => rfl
  | none =>
    cases task with
    | check =>
      simp only [Request.checkOf, hscript, bind, Except.bind]
      rfl
    | run =>
      have hsides : Request.sidesOf ⟨given, [word]⟩ = Request.sidesOf ⟨given, []⟩ := rfl
      simp only [Request.runOf, hsides, hscript, bind, Except.bind]
      cases Request.orEnding .run (Request.sidesOf ⟨given, []⟩) <;> rfl

/-- A run without a word for a file is asked for the standard input. -/
theorem ofWords_of_no_word (hread : readWords (.task .run) words = .ok ⟨given, []⟩) :
    Request.ofWords tree .run words = Request.asked .run given .standardInput := by
  simp only [Request.ofWords, wordsOf, hread, Request.asked]
  cases Words.page? (.task .run) ⟨given, []⟩ with
  | some text => rfl
  | none =>
    simp only [Request.runOf, bind, Except.bind]
    cases Request.orEnding .run (Request.sidesOf ⟨given, []⟩) <;> rfl

/-- Without a word for a file, or with a dash for it, the standard input is asked for. -/
theorem ofWords_inputWords (h : readWords (.task task) words = .ok ⟨given, inputWords task⟩) :
    Request.ofWords tree task words = Request.asked task given .standardInput := by
  cases task with
  | run => exact ofWords_of_no_word h
  | check => exact ofWords_of_word h fun title => rfl

/-! ## Two scripts that are read alike -/

/-- What two calls leave behind that read the same of two scripts, up to a failure if there is
one: the same, but for the name of the script where the failure is told. -/
inductive Twins [Text.EmojiTable] (settings : Settings) (task : Task) (script twin : Script) :
    Option ReadFailure → Outcome → Outcome → Prop
  | same (outcome : Outcome) : Twins settings task script twin none outcome outcome
  | unread (failure : ReadFailure) (output : String) (log : List Log.Record) :
      Twins settings task script twin (some failure)
        (emit settings output log (unreadable task.name script failure))
        (emit settings output log (unreadable task.name twin failure))

section

variable [Text.EmojiTable] {source second : Source}
  (hsource : script.source tree input = .ok source) (htwin : twin.source tree other = .ok second)
  (hread : source.readAll = second.readAll)
include hsource htwin hread

theorem run_twins (board : Board) :
    Twins settings .run script twin source.readAll.failure (run tree input settings board script)
      (run tree other settings board twin) := by
  simp only [run, hsource, htwin, Simulation.run_eq, ← hread]
  cases source.readAll.failure with
  | none => exact .same _
  | some failure => exact .unread failure _ _

theorem check_twins :
    Twins settings .check script twin source.readAll.failure (check tree input settings script)
      (check tree other settings twin) := by
  simp only [check, hsource, htwin]
  cases hfailure : source.readAll.failure with
  | none =>
    rw [Check.run_of_end settings.mode hfailure, Check.run_of_end settings.mode (hread ▸ hfailure),
      ← hread]
    exact .same _
  | some failure =>
    rw [Check.run_of_failure settings.mode hfailure,
      Check.run_of_failure settings.mode (hread ▸ hfailure), ← hread]
    exact .unread failure _ _

theorem carryOut_twins (request : Request) :
    Twins settings request.task script twin source.readAll.failure
      (carryOut tree input settings (request.withScript script))
      (carryOut tree other settings (request.withScript twin)) := by
  cases request with
  | run _ width height => exact run_twins hsource htwin hread _
  | check _ => exact check_twins hsource htwin hread

end

/-! ## How a failure to read is told -/

/-- The result of a task that could not read its script, by the name of the script and the reason
for the failure. -/
def unreadResult (task : Task) (name reason : String) : Result :=
  Result.failure task.name
    { code := "IO_ERROR"
      message := "An error has occurred reading " ++ name ++ ": " ++ reason
      detail := [("source", .text name)] }
    [] none

theorem unreadable_eq (task : Task) (script : Script) (failure : ReadFailure) :
    unreadable task.name script failure = unreadResult task script.name failure.message :=
  rfl

theorem showable_unreadResult [Text.EmojiTable] (task : Task) (name reason : String) :
    (unreadResult task name reason).Showable := by
  apply Result.showable_of_longText
  · simp [Result.depth, unreadResult, Result.failure, depthOfFields, Value.depth,
      Result.maxJsonDepth]
  · have hrejected : Display.rejectedLines [("source", .text name)] = .ok [] := rfl
    exact Result.exists_longText_of_not_ok rfl hrejected

/-- What a call leaves behind that tells a failure to read its script. -/
theorem emit_unreadResult [Text.EmojiTable] (settings : Settings) (output : String)
    (log : List Log.Record) (task : Task) (name reason : String) :
    ∃ text, (unreadResult task name reason).text settings.outputMode = .ok text ∧
      emit settings output log (unreadResult task name reason) =
        { exitCode := 1, output, sink := settings.sink, log, errors := Display.echo text } := by
  obtain ⟨text, htext⟩ := showable_unreadResult task name reason settings.outputMode
  refine ⟨text, htext, ?_⟩
  simp only [emit, htext]
  rfl

/-- Two calls that could not read their scripts end alike, and as JSON they tell it by results that
differ in the names of the scripts alone. -/
structure DifferInName (task : Task) (name other : String) (first second : Outcome) : Prop where
  exitCode : first.exitCode = 1 ∧ second.exitCode = 1
  output : first.output = second.output
  sink : first.sink = second.sink
  log : first.log = second.log
  crash : first.crash = none ∧ second.crash = none
  errors : ∃ reason,
    first.errors = Display.echo (Json.indented (unreadResult task name reason).toValue) ∧
      second.errors = Display.echo (Json.indented (unreadResult task other reason).toValue)

section

variable [Text.EmojiTable] {failure : Option ReadFailure} {first second : Outcome}
  (h : Twins settings task script twin failure first second)
include h

theorem Twins.exitCode_output :
    first.exitCode = second.exitCode ∧ first.output = second.output := by
  cases h with
  | same => exact ⟨rfl, rfl⟩
  | unread failure output log =>
    simp only [unreadable_eq]
    obtain ⟨_, -, hfirst⟩ :=
      emit_unreadResult settings output log task script.name failure.message
    obtain ⟨_, -, hsecond⟩ := emit_unreadResult settings output log task twin.name failure.message
    rw [hfirst, hsecond]
    exact ⟨rfl, rfl⟩

theorem Twins.eq_of_read (hread : failure = none) : first = second := by
  cases h with
  | same => rfl
  | unread => cases hread

theorem Twins.differInName (hread : failure ≠ none) (hjson : settings.jsonOutput = true) :
    DifferInName task script.name twin.name first second := by
  cases h with
  | same => exact absurd rfl hread
  | unread failure output log =>
    simp only [unreadable_eq]
    obtain ⟨text, htext, hfirst⟩ :=
      emit_unreadResult settings output log task script.name failure.message
    obtain ⟨other, hother, hsecond⟩ :=
      emit_unreadResult settings output log task twin.name failure.message
    rw [hfirst, hsecond, Result.eq_indented_of_text hjson htext,
      Result.eq_indented_of_text hjson hother]
    exact ⟨⟨rfl, rfl⟩, rfl, rfl, rfl, ⟨rfl, rfl⟩, failure.message, rfl, rfl⟩

end

/-! ## A file and the standard input -/

theorem source_of_file {bytes : List UInt8} (hfile : tree.stat word = .ok (.file bytes))
    (input : List UInt8) :
    (Script.file (Path.ofText word)).source tree input = .ok (.ofFile bytes) := by
  simp only [Script.source, FileTree.read, Path.stat_text_ofText hfile]

section

variable [Text.EmojiTable] {bytes : List UInt8}
  (hfront : readWords .program front = .ok ⟨flags, []⟩)
  (hnamed : readWords (.task task) named = .ok ⟨given, [word]⟩)
  (hunnamed : readWords (.task task) unnamed = .ok ⟨given, inputWords task⟩)
  (hfile : around.tree.stat word = .ok (.file bytes))
  (hdash : Path.ofText word ≠ Path.ofText Script.inputWord)
include hfront hnamed hunnamed hfile hdash

/-- A call that names a file ends as one that names the standard input does with any bytes on it, or
they come to reading the two, and then what they leave behind is told by that. -/
theorem invoke_twins (input : List UInt8) :
    let first := invoke around input (front ++ task.name :: named)
    let second := invoke around bytes (front ++ task.name :: unnamed)
    (∀ others, invoke around others (front ++ task.name :: unnamed) = first) ∨
      ∃ settings : Settings, settings.jsonOutput = Words.has ⟨flags, []⟩ .json ∧
        Twins settings task (.file (Path.ofText word)) .standardInput
          (Source.ofFile bytes).readAll.failure first second := by
  intro first second
  simp only [first, second, invoke]
  rcases ofWords_front hfront task with ⟨ending, hending⟩ | ⟨opening, hjson, hopening⟩
  · -- the words are refused before anything is read
    left
    intro others
    rw [hending, hending]
  · have hflags (asked : Option (Task × List String)) :
        Opening.flags { opening with task := asked } = opening.flags := rfl
    rw [hopening, hopening]
    simp only [hflags]
    cases hload : Settings.load around opening.config none opening.flags with
    | error failure => exact .inl fun others => rfl
    | ok settings =>
      have hscript (title : String) : Request.scriptOf around.tree task title word =
          .ok (.file (Path.ofText word)) := by
        rw [scriptOf_of_file hfile, Script.ofWord, if_neg hdash]
      simp only [perform, ofWords_of_word hnamed hscript, ofWords_inputWords hunnamed]
      rcases asked_eq task given with ⟨ending, hending⟩ | ⟨request, rfl, hrequest⟩
      · left
        intro others
        rw [hending, hending]
      · right
        rw [hrequest, hrequest]
        refine ⟨settings, (ofSettings_of_load hload .jsonOutput).trans hjson, ?_⟩
        exact carryOut_twins (source_of_file hfile input) rfl
          ((Source.ofFile bytes).readAll_owner false).symm request

/-- A file with its bytes on the standard input in its place. A task whose words name a file,
wherever among its switches, and the same task without it, or with a dash for it, end with the same
number and write the same to the standard output. If the bytes are in UTF-8 they leave the same
behind. If they are not, and results are written as JSON, the failures are told by results that
differ in the name of the script alone, unless the call for the file ends as the other one does with
any bytes. A text in memory of which each carriage return has a line feed behind it is read as the
file of its bytes is. -/
theorem file_alike_input :
    (∀ input,
      let first := invoke around input (front ++ task.name :: named)
      let second := invoke around bytes (front ++ task.name :: unnamed)
      (first.exitCode = second.exitCode ∧ first.output = second.output) ∧
        ((∃ text : List Char, bytes = text.flatMap String.utf8EncodeChar) → first = second) ∧
        ((∀ text : List Char, bytes ≠ text.flatMap String.utf8EncodeChar) →
          Words.has ⟨flags, []⟩ .json = true →
            (∀ others, invoke around others (front ++ task.name :: unnamed) = first) ∨
              DifferInName task (Path.ofText word).text "<stdin>" first second)) ∧
    ∀ (text : String) (owns : Bool), Text.Paired text.toList → ∀ n,
      (Source.ofText text owns).nthRead n =
        (Source.ofFile (text.toList.flatMap String.utf8EncodeChar)).nthRead n := by
  constructor
  · intro input first second
    rcases invoke_twins hfront hnamed hunnamed hfile hdash input with
      hsame | ⟨settings, hjson, htwins⟩
    · have hbytes : second = first := hsame bytes
      rw [hbytes]
      exact ⟨⟨rfl, rfl⟩, fun _ => rfl, fun _ _ => .inl hsame⟩
    · refine ⟨htwins.exitCode_output, ?_, ?_⟩
      · rintro ⟨text, htext⟩
        apply htwins.eq_of_read
        rw [htext, ← Text.Utf8.encode_eq_flatMap, Source.readAll_ofFile_encode]
      · intro hinvalid hflag
        right
        apply htwins.differInName _ (hjson.trans hflag)
        intro hread
        obtain ⟨text, htext⟩ := Source.exists_text_of_readAll_ofFile hread
        exact hinvalid text (htext.trans (Text.Utf8.encode_eq_flatMap text))
  · intro text owns hpaired n
    rw [← Text.Utf8.encode_eq_flatMap]
    exact Source.nthRead_ofText_eq_ofFile hpaired owns n

end

section

open scoped Text.FewEmoji

/-- A script with both kinds of line ends, and one that breaks off in bytes that are no text. -/
def wholeAndTorn : Surroundings where
  tree :=
    { files :=
        [(["whole.txt"], bytesOf "PLACE 1,1,NORTH\r\nMOVE\nREPORT"),
          (["torn.txt"], [0x4C, 0x45, 0x46, 0x54, 0x0A, 0xFF])]
      directories := []
      workingDirectory := [] }
  environment := []

/-- The first script is run alike from its file, named between two switches, and from the standard
input; of the second one both checks fail and differ in a name alone; and lines with paired ends are
read alike from memory. -/
theorem file_alike_input_torn :
    invoke wholeAndTorn [] ["-v", "run", "--width", "2", "whole.txt", "--height", "3"] =
        invoke wholeAndTorn (bytesOf "PLACE 1,1,NORTH\r\nMOVE\nREPORT")
          ["-v", "run", "--width", "2", "--height", "3"] ∧
      DifferInName .check "torn.txt" "<stdin>"
        (invoke wholeAndTorn [] ["--json", "check", "torn.txt"])
        (invoke wholeAndTorn [0x4C, 0x45, 0x46, 0x54, 0x0A, 0xFF] ["--json", "check", "-"]) ∧
      ∀ n, (Source.ofText "MOVE\r\nLEFT" false).nthRead n =
        (Source.ofFile ("MOVE\r\nLEFT".toList.flatMap String.utf8EncodeChar)).nthRead n := by
  have hrunFront : readWords .program ["-v"] = .ok ⟨[(.verbose, "")], []⟩ := by decide +kernel
  have hcheckFront : readWords .program ["--json"] = .ok ⟨[(.json, "")], []⟩ := by decide +kernel
  have hrunNamed :
      readWords (.task .run) ["--width", "2", "whole.txt", "--height", "3"] =
        .ok ⟨[(.width, "2"), (.height, "3")], ["whole.txt"]⟩ := by
    decide +kernel
  have hrunUnnamed : readWords (.task .run) ["--width", "2", "--height", "3"] =
      .ok ⟨[(.width, "2"), (.height, "3")], []⟩ := by
    decide +kernel
  have hcheckNamed : readWords (.task .check) ["torn.txt"] = .ok ⟨[], ["torn.txt"]⟩ := by
    decide +kernel
  have hcheckDash : readWords (.task .check) ["-"] = .ok ⟨[], ["-"]⟩ := by decide +kernel
  have hwhole : wholeAndTorn.tree.stat "whole.txt" =
      .ok (.file (bytesOf "PLACE 1,1,NORTH\r\nMOVE\nREPORT")) := by
    decide +kernel
  have htorn :
      wholeAndTorn.tree.stat "torn.txt" = .ok (.file [0x4C, 0x45, 0x46, 0x54, 0x0A, 0xFF]) := by
    decide +kernel
  have hinvalid : ∀ text : List Char,
      [0x4C, 0x45, 0x46, 0x54, 0x0A, 0xFF] ≠ text.flatMap String.utf8EncodeChar := by
    intro text htext
    rw [← Text.Utf8.encode_eq_flatMap, ← Text.Utf8.decode_eq_ok_iff] at htext
    cases htext
  have hpaired : Text.Paired "MOVE\r\nLEFT".toList := by decide
  obtain ⟨hrun, hmemory⟩ := file_alike_input hrunFront hrunNamed hrunUnnamed hwhole
    (by decide +kernel)
  obtain ⟨hcheck, -⟩ := file_alike_input hcheckFront hcheckNamed hcheckDash htorn
    (by decide +kernel)
  refine ⟨(hrun []).2.1 ⟨_, rfl⟩, ?_, hmemory _ false hpaired⟩
  rcases (hcheck []).2.2 hinvalid rfl with hsame | hdiffer
  · have hempty : (invoke wholeAndTorn [] ["--json", "check", "-"]).exitCode =
        (invoke wholeAndTorn [] ["--json", "check", "torn.txt"]).exitCode :=
      congrArg Outcome.exitCode (hsame [])
    exact absurd hempty (by decide +kernel)
  · exact hdiffer

end

end Tabletop.CommandLine
