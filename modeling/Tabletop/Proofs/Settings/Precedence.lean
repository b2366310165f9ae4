import Tabletop.Proofs.Except
import Tabletop.Proofs.Settings.Variables

/-!
# The layers of the settings

For each single setting the highest layer that gives it counts: the flags of the caller, then the
environment, then the file, and what holds by itself where none gives it (`chosen`). The settings of
a run are read from the values so chosen and from nothing else (`load_layered`): a layer that gives
one setting of a section hides no other, and a value that is hidden is never read.

Of what the environment gives, a variable inside a section counts over the same name in the record
of the section, in any case. A record that gives the name in lower case and again in another is the
exception: its last spelling counts over the variable too (`width_of_respelled_record`).
-/

set_option autoImplicit false

namespace Tabletop.Settings

variable {around : Surroundings} {explicit : Option String} {start path : Option Path}
  {flags environment file fields upper lower : Fields} {settings : Settings}
  {failure : SettingsFailure}

/-! ## Three layers as one -/

/-- Fields without those that no layer may give. -/
def givable (fields : Fields) : Fields :=
  fields.filter fun field => field.1 != "config_path"

theorem load_of_unlocated (hpath : locate around explicit start = .error failure) :
    load around explicit start flags = .error failure := by
  unfold load
  rw [hpath]
  rfl

theorem load_of_unread (hpath : locate around explicit start = .ok path)
    (hfile : fileLayer around.nesting.toml around.tree path = .error failure) :
    load around explicit start flags = .error failure := by
  unfold load
  rw [hpath]
  dsimp only [bind, Except.bind]
  rw [hfile]

theorem load_of_illegible (hpath : locate around explicit start = .ok path)
    (hfile : fileLayer around.nesting.toml around.tree path = .ok file)
    (henvironment : environmentLayer around.nesting.json around.environment = .error failure) :
    load around explicit start flags = .error failure := by
  unfold load
  rw [hpath]
  dsimp only [bind, Except.bind]
  rw [hfile]
  dsimp only
  rw [henvironment]

/-- Settings are put together from three layers, and from what these come to. -/
theorem load_of_layers (hpath : locate around explicit start = .ok path)
    (hfile : fileLayer around.nesting.toml around.tree path = .ok file)
    (henvironment : environmentLayer around.nesting.json around.environment = .ok environment) :
    load around explicit start flags =
      match ofFields path (givable (merge [flags, environment, file])) with
      | .ok settings => .ok settings
      | .error problems => .error (.invalid problems.first) := by
  unfold load
  rw [hpath]
  dsimp only [bind, Except.bind]
  rw [hfile]
  dsimp only
  rw [henvironment]
  rfl

/-- How far the settings come: a layer is missing for a failure, or there are all three. -/
inductive Stage (around : Surroundings) (explicit : Option String) (start : Option Path)
    (flags : Fields) : Prop
  | unlocated (failure : SettingsFailure)
      (hpath : locate around explicit start = .error failure)
      (hload : load around explicit start flags = .error failure)
  | unread (path : Option Path) (failure : SettingsFailure)
      (hpath : locate around explicit start = .ok path)
      (hfile : fileLayer around.nesting.toml around.tree path = .error failure)
      (hload : load around explicit start flags = .error failure)
  | illegible (path : Option Path) (file : Fields) (failure : SettingsFailure)
      (hpath : locate around explicit start = .ok path)
      (hfile : fileLayer around.nesting.toml around.tree path = .ok file)
      (henvironment : environmentLayer around.nesting.json around.environment = .error failure)
      (hload : load around explicit start flags = .error failure)
  | layers (path : Option Path) (file environment : Fields)
      (hpath : locate around explicit start = .ok path)
      (hfile : fileLayer around.nesting.toml around.tree path = .ok file)
      (henvironment : environmentLayer around.nesting.json around.environment = .ok environment)

theorem stage (around : Surroundings) (explicit : Option String) (start : Option Path)
    (flags : Fields) : Stage around explicit start flags := by
  cases hpath : locate around explicit start with
  | error failure => exact .unlocated failure hpath (load_of_unlocated hpath)
  | ok path =>
    cases hfile : fileLayer around.nesting.toml around.tree path with
    | error failure => exact .unread path failure hpath hfile (load_of_unread hpath hfile)
    | ok file =>
      cases henvironment : environmentLayer around.nesting.json around.environment with
      | error failure =>
        exact .illegible path file failure hpath hfile henvironment
          (load_of_illegible hpath hfile henvironment)
      | ok environment => exact .layers path file environment hpath hfile henvironment

theorem exists_layers_of_load (h : load around explicit start flags = .ok settings) :
    ∃ path file environment, locate around explicit start = .ok path ∧
      fileLayer around.nesting.toml around.tree path = .ok file ∧
      environmentLayer around.nesting.json around.environment = .ok environment ∧
      ofFields path (givable (merge [flags, environment, file])) = .ok settings := by
  cases stage around explicit start flags with
  | unlocated failure hpath hload => cases h.symm.trans hload
  | unread path failure hpath hfile hload => cases h.symm.trans hload
  | illegible path file failure hpath hfile henvironment hload => cases h.symm.trans hload
  | layers path file environment hpath hfile henvironment =>
    rw [load_of_layers hpath hfile henvironment] at h
    refine ⟨path, file, environment, hpath, hfile, henvironment, ?_⟩
    split at h
    · rename_i read hread
      cases h
      exact hread
    · cases h

theorem merge_layers (flags environment file : Fields) :
    merge [flags, environment, file] = Fields.over (Fields.over flags environment) file := rfl

theorem IsLayer.over (hupper : IsLayer upper) (hlower : IsLayer lower) :
    IsLayer (Fields.over upper lower) := by
  refine ⟨Fields.nodup_over hlower.nodup, ?_⟩
  intro part hpart value hvalue
  rw [Fields.get?_over hupper.nodup lower part] at hvalue
  cases hgiven : upper.get? part with
  | none =>
    rw [hgiven] at hvalue
    exact hlower.records part hpart value hvalue
  | some first =>
    obtain ⟨inner, rfl, hinner⟩ := hupper.records part hpart first hgiven
    rw [hgiven] at hvalue
    cases hbelow : lower.get? part with
    | none =>
      rw [hbelow, Value.overlay_none] at hvalue
      cases hvalue
      exact ⟨inner, rfl, hinner⟩
    | some second =>
      obtain ⟨outer, rfl, houter⟩ := hlower.records part hpart second hbelow
      rw [hbelow, Value.overlay, Value.over_record] at hvalue
      cases hvalue
      exact ⟨_, rfl, Fields.nodup_over houter⟩

theorem Sectioned.over (hupper : IsLayer upper) (hlower : Sectioned lower) :
    Sectioned (Fields.over upper lower) := by
  intro part hpart value hvalue
  rw [Fields.get?_over hupper.nodup lower part] at hvalue
  cases hgiven : upper.get? part with
  | none =>
    rw [hgiven] at hvalue
    exact hlower part hpart value hvalue
  | some first =>
    obtain ⟨inner, rfl, -⟩ := hupper.records part hpart first hgiven
    obtain ⟨merged, hmerged⟩ := Value.exists_record_over inner (lower.get? part)
    rw [hgiven, Value.overlay, hmerged] at hvalue
    cases hvalue
    exact ⟨merged, rfl⟩

theorem Leaf.given?_givable (leaf : Leaf) (fields : Fields) :
    leaf.given? (givable fields) = leaf.given? fields := by
  unfold Leaf.given? givable
  cases hpart : leaf.part? with
  | none =>
    have hname : leaf.name ≠ "config_path" := by cases leaf <;> decide
    exact Fields.get?_filter_ne hname
  | some part =>
    have hname : part ≠ "config_path" := by
      rintro rfl
      exact absurd (Leaf.part?_mem hpart) (by decide)
    dsimp only
    rw [Fields.get?_filter_ne hname]

theorem Sectioned.givable (h : Sectioned fields) : Sectioned (givable fields) := by
  intro part hpart value hvalue
  have hname : part ≠ "config_path" := by
    rintro rfl
    exact absurd hpart (by decide)
  rw [Settings.givable, Fields.get?_filter_ne hname] at hvalue
  exact h part hpart value hvalue

theorem mem_keys_of_givable {key : String} (h : key ∈ (givable fields).keys) :
    key ∈ fields.keys := by
  obtain ⟨field, hfield, rfl⟩ := List.mem_map.1 h
  exact List.mem_map_of_mem (List.mem_filter.1 hfield).1

/-- Layers that give settings alone come to fields that do. -/
theorem mem_names_of_merge (hflags : ∀ key ∈ flags.keys, key ∈ names)
    (henvironment : ∀ key ∈ environment.keys, key ∈ names)
    (hfile : ∀ key ∈ file.keys, key ∈ names) :
    ∀ key ∈ (givable (merge [flags, environment, file])).keys, key ∈ names := by
  intro key hkey
  have hkey := mem_keys_of_givable hkey
  rw [merge_layers, Fields.mem_keys_over, Fields.mem_keys_over] at hkey
  rcases hkey with (hkey | hkey) | hkey
  · exact hflags key hkey
  · exact henvironment key hkey
  · exact hfile key hkey

theorem sectioned_merge (hflags : IsLayer flags) (henvironment : IsLayer environment)
    (hfile : Sectioned file) : Sectioned (givable (merge [flags, environment, file])) :=
  (Sectioned.over (hflags.over henvironment) hfile).givable

/-! ## Each setting from the highest layer that gives it -/

/-- The value for a setting of the highest layer that gives one. -/
def chosen (depth : Nat) (flags : Fields) (environment : List (String × String)) (file : Fields)
    (leaf : Leaf) : Option Value :=
  ((leaf.given? flags).or (fromEnvironment depth environment leaf)).or (leaf.given? file)

/-- A setting is read from three layers as from the highest of them that gives it. -/
theorem Leaf.read_merge (hflags : IsLayer flags) (henvironment : IsLayer environment)
    (hfile : Sectioned file) (leaf : Leaf) :
    leaf.read (leaf.given? (givable (merge [flags, environment, file]))) =
      leaf.read (((leaf.given? flags).or (leaf.given? environment)).or (leaf.given? file)) := by
  rw [Leaf.given?_givable, merge_layers, Leaf.given?_over (hflags.over henvironment) hfile,
    Leaf.given?_over hflags henvironment.sectioned, Leaf.read_overlay]
  -- a flag that is a record takes in what lies below, but it is no better a value for that
  cases leaf.given? flags with
  | none => rfl
  | some value => exact leaf.ofValue_over value (leaf.given? environment)

/-- There are settings of any single settings. -/
theorem exists_leaf_eq (path : Option Path) (kinds : (leaf : Leaf) → leaf.Kind) :
    ∃ settings : Settings, settings.configPath = path ∧
      ∀ leaf : Leaf, settings.leaf leaf = kinds leaf := by
  refine ⟨⟨path, kinds .jsonOutput, kinds .quiet, kinds .verbose, kinds .logJson,
    ⟨(kinds .width).1, (kinds .height).1, (kinds .width).2, (kinds .height).2⟩,
    Mode.ofLenient (kinds .lenient)⟩, rfl, ?_⟩
  intro leaf
  cases leaf with
  | lenient =>
    show (Mode.ofLenient (kinds .lenient)).isLenient = kinds .lenient
    cases kinds .lenient <;> rfl
  | _ => rfl

/-- The tables of a file that is read. -/
theorem fileLayer_of_read {levels : Nat} {tree : FileTree} {path : Path} {bytes : List UInt8}
    {text : List Char} (hread : tree.read path = .ok bytes)
    (hdecode : Text.Utf8.decode bytes = .ok text) (htables : Toml.read levels text = .ok file) :
    fileLayer levels tree (some path) = .ok file := by
  simp only [fileLayer, hread, hdecode, htables]

/-- Settings from a file, the environment and the flags of a caller are put together leaf by leaf:
each is read from the highest layer that gives it. They are put together just if all values so
chosen can be read, and a failure is about one of these values. -/
theorem load_layered (hpath : locate around explicit start = .ok path)
    (hfile : fileLayer around.nesting.toml around.tree path = .ok file)
    (hfileNames : ∀ key ∈ file.keys, key ∈ names) (hfileParts : Sectioned file)
    (henvironment : IsLegible around.nesting.json around.environment)
    (hflags : IsLayer flags) (hflagNames : ∀ key ∈ flags.keys, key ∈ names) :
    (∀ settings, load around explicit start flags = .ok settings ↔
      settings.configPath = path ∧ ∀ leaf : Leaf,
        leaf.read (chosen around.nesting.json flags around.environment file leaf) =
          .ok (settings.leaf leaf)) ∧
    ((∃ settings, load around explicit start flags = .ok settings) ↔
      ∀ leaf : Leaf, ∃ a,
        leaf.read (chosen around.nesting.json flags around.environment file leaf) = .ok a) ∧
    ∀ failure, load around explicit start flags = .error failure →
      ∃ (leaf : Leaf) (cause : ProblemCause), failure = .invalid ⟨leaf.path, cause⟩ ∧
        leaf.read (chosen around.nesting.json flags around.environment file leaf) =
          .error cause := by
  obtain ⟨environment, hlayer, hisLayer, hlayerNames, hgiven⟩ :=
    exists_environmentLayer henvironment
  have hread (leaf : Leaf) :
      leaf.read (leaf.given? (givable (merge [flags, environment, file]))) =
        leaf.read (chosen around.nesting.json flags around.environment file leaf) := by
    rw [Leaf.read_merge hflags hisLayer hfileParts, hgiven, chosen]
  have hnames := mem_names_of_merge hflagNames hlayerNames hfileNames
  have hparts := sectioned_merge hflags hisLayer hfileParts
  have hload : load around explicit start flags = _ := load_of_layers hpath hfile hlayer
  have hok (settings : Settings) : load around explicit start flags = .ok settings ↔
      settings.configPath = path ∧ ∀ leaf : Leaf,
        leaf.read (chosen around.nesting.json flags around.environment file leaf) =
          .ok (settings.leaf leaf) := by
    simp only [← hread]
    rw [← ofFields_eq_ok_iff hnames hparts, hload]
    cases ofFields path (givable (merge [flags, environment, file])) with
    | ok read => simp
    | error problems => simp
  refine ⟨hok, ?_, ?_⟩
  · constructor
    · rintro ⟨settings, hsettings⟩ leaf
      exact ⟨_, ((hok settings).1 hsettings).2 leaf⟩
    · intro hall
      choose kinds hkinds using hall
      obtain ⟨settings, hsettings, hleaf⟩ := exists_leaf_eq path kinds
      refine ⟨settings, (hok settings).2 ⟨hsettings, ?_⟩⟩
      intro leaf
      rw [hleaf]
      exact hkinds leaf
  · intro failure hfailure
    rw [hload] at hfailure
    cases hfields : ofFields path (givable (merge [flags, environment, file])) with
    | ok read =>
      rw [hfields] at hfailure
      cases hfailure
    | error problems =>
      rw [hfields] at hfailure
      cases hfailure
      obtain ⟨leaf, cause, hcause, hfirst⟩ :=
        exists_leaf_of_ofFields_eq_error hnames hparts hfields
      rw [hread] at hcause
      exact ⟨leaf, cause, by rw [hfirst], hcause⟩

/-- What stands in a settings file. -/
def fileText : List Char :=
  "quiet = \"on\"\nlog_json = 1\n[board]\nheight = 0".toList

/-- A place with that settings file and variables, of which three give sides of the board. -/
def fileAndVariables : Surroundings where
  tree :=
    { files := [(["robosim.toml"], fileText.flatMap String.utf8EncodeChar)]
      directories := []
      workingDirectory := [] }
  environment :=
    [("ROBOSIM_LOG_JSON", "off"), ("ROBOSIM_BOARD", "\x7b\"Width\": 3\x7d"),
      ("robosim_board__height", "9")]

/-- The settings of that place under one flag. -/
def settingsOfBoth : Settings where
  configPath := some (Path.absolute ["robosim.toml"])
  jsonOutput := false
  quiet := true
  verbose := true
  logJson := false
  board := ⟨3, 9, by decide, by decide⟩
  mode := .strict

/-- The width comes from the JSON of the environment and the height from the variable inside the
section; that the file gives no valid height is not told. -/
theorem load_fileAndVariables :
    load fileAndVariables none none [("verbose", .bool true)] = .ok settingsOfBoth := by
  have hpath : locate fileAndVariables none none = .ok (some (Path.absolute ["robosim.toml"])) :=
    eq_ok_of_toOption (by decide +kernel)
  have hfile : fileLayer fileAndVariables.nesting.toml fileAndVariables.tree
      (some (Path.absolute ["robosim.toml"])) =
      .ok [("quiet", .text "on"), ("log_json", .int 1),
        ("board", .record [("height", .int 0)])] := by
    apply fileLayer_of_read
    · exact eq_ok_of_toOption (a := fileText.flatMap String.utf8EncodeChar) (by decide +kernel)
    · exact eq_ok_of_toOption (a := fileText) (by decide +kernel)
    · -- values are not compared by `decide`, and what reads them is irreducible
      with_unfolding_all rfl
  have hlayered := load_layered hpath hfile (by decide) (by decide)
    (show IsLegible fileAndVariables.nesting.json fileAndVariables.environment by decide +kernel)
    (show IsLayer [("verbose", .bool true)] by decide) (by decide)
  apply (hlayered.1 settingsOfBoth).2
  refine ⟨rfl, ?_⟩
  intro leaf
  cases leaf with
  | jsonOutput => exact eq_ok_of_toOption (by decide +kernel)
  | quiet => exact eq_ok_of_toOption (by decide +kernel)
  | verbose => exact eq_ok_of_toOption (by decide +kernel)
  | logJson => exact eq_ok_of_toOption (by decide +kernel)
  | width => exact eq_ok_of_toOption (by decide +kernel)
  | height => exact eq_ok_of_toOption (by decide +kernel)
  | lenient => exact eq_ok_of_toOption (by decide +kernel)

/-- An environment whose JSON gives the width of the board in two cases, with a variable for it. -/
def respelling : List (String × String) :=
  [("ROBOSIM_BOARD", "\x7b\"width\":4,\"WIDTH\":3\x7d"), ("ROBOSIM_BOARD__WIDTH", "9")]

/-- The variable inside a section does not count over every spelling of its name in the JSON of the
section, although no two variables differ in case alone. -/
theorem width_of_respelled_record :
    IsLegible (Nesting.json {}) respelling ∧ (respelling.map fun entry => lowerCase entry.1).Nodup ∧
      lastNamed respelling (inside "board" ++ Leaf.width.name) =
        some ("ROBOSIM_BOARD__WIDTH", "9") ∧
      Leaf.width.read (some (.text "9")) = .ok ⟨9, by decide⟩ ∧
      (load ⟨⟨[], [], []⟩, respelling, {}⟩ none none []).toOption.map
        (fun settings => settings.leaf .width) = some ⟨3, by decide⟩ := by
  refine ⟨by decide +kernel, by decide +kernel, by decide +kernel, ?_, by decide +kernel⟩
  exact eq_ok_of_toOption (by decide +kernel)

end Tabletop.Settings
