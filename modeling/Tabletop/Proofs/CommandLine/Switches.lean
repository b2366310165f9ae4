import Tabletop.CommandLine
import Tabletop.Proofs.Settings.Precedence

/-!
# The flags of a call

Each flag of the program can be given by its switch, by the environment and by the settings file,
and by rights a lower layer counts where the switch is absent (`Flag.documented`). A call gives all
four flags whether their switches are there or not, and so nothing below ever counts
(`flags_of_words`): what the documents say comes about only where a switch is there or the lower
layers say no. A variable that asks for quiet is passed over (`passedOver_quiet`).
-/

set_option autoImplicit false

namespace Tabletop.CommandLine

open Settings (variableNamed variableStart environmentLayer fileLayer locate givable merge)

variable {around : Surroundings} {opening : Opening} {settings : Settings}
  {path : Option Path} {file fields environment : Fields}

/-- A flag of the program. -/
inductive Flag where
  | jsonOutput
  | quiet
  | verbose
  | logJson
  deriving DecidableEq, Repr

namespace Flag

/-- The name of a flag as a setting. -/
def name : Flag → String
  | jsonOutput => "json_output"
  | quiet => "quiet"
  | verbose => "verbose"
  | logJson => "log_json"

/-- Whether the switch of a flag is on the command line. -/
def isOn (opening : Opening) : Flag → Bool
  | jsonOutput => opening.jsonOutput
  | quiet => opening.quiet
  | verbose => opening.verbose
  | logJson => opening.logJson

/-- A flag in the settings of a run. -/
def ofSettings (settings : Settings) : Flag → Bool
  | jsonOutput => settings.jsonOutput
  | quiet => settings.quiet
  | verbose => settings.verbose
  | logJson => settings.logJson

/-- What the layers below the command line make of a flag: its variable, or else the file. -/
def below (environment : List (String × String)) (file : Fields) (flag : Flag) :
    Except ProblemCause Bool :=
  match (variableNamed environment (variableStart ++ flag.name)).or (file.get? flag.name) with
  | some value => value.boolean
  | none => .ok false

/-- What a flag is by the order of the layers: true by its switch, or else what the layers below
make of it. -/
def documented (opening : Opening) (environment : List (String × String)) (file : Fields)
    (flag : Flag) : Except ProblemCause Bool :=
  if flag.isOn opening then .ok true else flag.below environment file

end Flag

/-- A call gives every flag, on or off. -/
theorem get?_flags (opening : Opening) (flag : Flag) :
    opening.flags.get? flag.name = some (.bool (flag.isOn opening)) := by
  cases flag <;> rfl

theorem nodup_flags (opening : Opening) : opening.flags.keys.Nodup := by
  have hkeys : opening.flags.keys = ["json_output", "quiet", "verbose", "log_json"] := rfl
  rw [hkeys]
  decide

/-- Settings from fields have the flags that these give. -/
theorem ofSettings_of_fields (flag : Flag) (h : Settings.ofFields path fields = .ok settings) :
    fields.optional flag.name false readBoolean = .ok (flag.ofSettings settings) := by
  obtain ⟨read, hread, rfl⟩ := Validated.bind_ok_eq_ok_iff.1 (show _ >>= _ = _ from h)
  obtain ⟨jsonOutput, quiet, verbose, logJson, rest⟩ := read
  simp only [Validated.both_eq_ok_iff] at hread
  obtain ⟨hjsonOutput, hquiet, hverbose, hlogJson, -⟩ := hread
  cases flag with
  | jsonOutput => exact hjsonOutput
  | quiet => exact hquiet
  | verbose => exact hverbose
  | logJson => exact hlogJson

/-- A field of all layers together, with the flags of a call as the highest one. -/
theorem get?_merge (henvironment : environment.keys.Nodup) {key : String}
    (hkey : key ≠ "config_path") :
    (givable (merge [opening.flags, environment, file])).get? key =
      Value.overlay (Value.overlay (opening.flags.get? key) (environment.get? key))
        (file.get? key) := by
  rw [givable, Fields.get?_filter_ne hkey, Settings.merge_layers,
    Fields.get?_over (Fields.nodup_over henvironment), Fields.get?_over (nodup_flags opening)]

/-- A flag in the highest layer stands there in all layers together. -/
theorem get?_merge_flags (henvironment : environment.keys.Nodup) (flag : Flag) :
    (givable (merge [opening.flags, environment, file])).get? flag.name =
      some (.bool (flag.isOn opening)) := by
  have hname : flag.name ≠ "config_path" := by cases flag <;> decide
  have hover (lower : Option Value) (b : Bool) : (Value.bool b).over lower = .bool b := by
    cases lower <;> simp [Value.over]
  rw [get?_merge henvironment hname, get?_flags]
  simp only [Value.overlay, hover]

/-- The settings of a call have its flags as its switches say, whatever lies below. -/
theorem ofSettings_of_load
    (h : Settings.load around opening.config none opening.flags = .ok settings) (flag : Flag) :
    flag.ofSettings settings = flag.isOn opening := by
  obtain ⟨path, file, environment, -, -, henvironment, hfields⟩ := Settings.exists_layers_of_load h
  have hnodup := Settings.nodup_of_environmentLayer henvironment
  -- what the settings were read from holds the flag of the call, so that is what was read
  have hread := ofSettings_of_fields flag hfields
  rw [Fields.optional, get?_merge_flags hnodup] at hread
  have hvalue : Except.ok (flag.isOn opening) = .ok (flag.ofSettings settings) := hread
  exact (Except.ok.inj hvalue).symm

/-- A call carries out its task under settings whose flags are those of its switches alone. So a
flag is as documented just where its switch is there or the layers below say no. -/
theorem flags_of_words [Text.EmojiTable]
    (hload : Settings.load around opening.config none opening.flags = .ok settings) :
    (∀ input words, Opening.ofWords words = .ok opening →
      invoke around input words = perform around.tree input settings opening.task) ∧
    ∃ path file, locate around opening.config none = .ok path ∧
      fileLayer around.nesting.toml around.tree path = .ok file ∧
      ∀ flag : Flag, flag.ofSettings settings = flag.isOn opening ∧
        (flag.documented opening around.environment file = .ok (flag.ofSettings settings) ↔
          flag.isOn opening = true ∨ flag.below around.environment file = .ok false) := by
  constructor
  · intro input words hopening
    simp only [invoke, hopening, hload]
  · obtain ⟨path, file, environment, hpath, hfile, -, -⟩ := Settings.exists_layers_of_load hload
    refine ⟨path, file, hpath, hfile, ?_⟩
    intro flag
    have hflag := ofSettings_of_load hload flag
    refine ⟨hflag, ?_⟩
    rw [hflag, Flag.documented]
    cases flag.isOn opening with
    | true => simp
    | false => simp

/-- A place with a script, where a variable asks for quiet. -/
def quietByVariable : Surroundings where
  tree :=
    { files := [(["s.txt"], "PLACE 1,1,NORTH\n".toList.flatMap String.utf8EncodeChar)]
      directories := []
      workingDirectory := [] }
  environment := [("ROBOSIM_QUIET", "1")]

/-- What a call without switches asks for. -/
def plainCheck : Opening where
  jsonOutput := false
  quiet := false
  verbose := false
  logJson := false
  config := none
  task := some (.check, ["s.txt"])

section

open scoped Text.FewEmoji

/-- A check without switches goes by settings that are not quiet. -/
theorem flags_of_plainCheck :
    ∃ settings, Settings.load quietByVariable none none plainCheck.flags = .ok settings ∧
      settings.quiet = false ∧
      invoke quietByVariable [] ["check", "s.txt"] =
        perform quietByVariable.tree [] settings (some (.check, ["s.txt"])) := by
  have hload : Settings.load quietByVariable plainCheck.config none plainCheck.flags =
      .ok ⟨none, false, false, false, false, Board.standard, .strict⟩ :=
    eq_ok_of_toOption (by decide +kernel)
  have hopening : Opening.ofWords ["check", "s.txt"] = .ok plainCheck := by decide +kernel
  obtain ⟨hinvoke, path, file, -, -, hflags⟩ := flags_of_words hload
  exact ⟨_, hload, (hflags .quiet).1, hinvoke [] ["check", "s.txt"] hopening⟩

/-- The variable that asks for quiet is passed over: by the documents the check is quiet, and what
is written is not what the switch for quiet brings about. -/
theorem passedOver_quiet :
    Opening.ofWords ["check", "s.txt"] = .ok plainCheck ∧
      locate quietByVariable plainCheck.config none = .ok none ∧
      Flag.quiet.documented plainCheck quietByVariable.environment [] = .ok true ∧
      (invoke quietByVariable [] ["check", "s.txt"]).output =
        "OK  check\n  count: 1\n  valid: 1\n  blank: 0\n" ∧
      (invoke quietByVariable [] ["--quiet", "check", "s.txt"]).output = "OK: check\n" := by
  refine ⟨by decide +kernel, ?_, ?_, by decide +kernel, by decide +kernel⟩
  · exact eq_ok_of_toOption (by decide +kernel)
  · exact eq_ok_of_toOption (by decide +kernel)

end

end Tabletop.CommandLine
