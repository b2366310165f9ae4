import Tabletop.Proofs.CommandLine.Switches

/-!
# Settings under other flags

The four flags of a call are fields of its highest layer, and each of them is read by itself. Two
calls that differ in their flags alone therefore have their settings put together alike: for one
they cannot be put together just if they cannot be for the other, and then for the same reason, and
where they can they differ in the four flags alone (`load_flagged`).
-/

set_option autoImplicit false

namespace Tabletop

/-! ## Names of fields laid over each other -/

/-- The names of a record that was laid over another depend on the names of both alone. -/
theorem Fields.keys_over_congr {upper other lower below : Fields} (hupper : upper.keys = other.keys)
    (hlower : lower.keys = below.keys) :
    (Fields.over upper lower).keys = (Fields.over other below).keys := by
  unfold Fields.over
  induction upper generalizing other lower below with
  | nil =>
    obtain rfl : other = [] := List.map_eq_nil_iff.1 hupper.symm
    rw [overList, overList, hlower]
  | cons field upper ih =>
    obtain ⟨named, rest, rfl, hname, hrest⟩ := List.map_eq_cons_iff.1 hupper.symm
    obtain ⟨key, value⟩ := field
    obtain ⟨key', value'⟩ := named
    obtain rfl : key' = key := hname
    rw [overList, overList]
    apply ih hrest.symm
    rw [keys_put, keys_put, hlower]

namespace Settings

theorem keys_givable (fields : Fields) :
    (givable fields).keys = fields.keys.filter fun key => key != "config_path" := by
  rw [givable, Fields.keys, Fields.keys, List.filter_map]
  rfl

theorem unknown_congr {fields other : Fields} (h : fields.keys = other.keys) :
    unknown fields = unknown other := by
  rw [unknown, h, unknown]

/-- What settings have besides their flags, from their fields. -/
def partsOf (fields : Fields) : Validated (Board × Mode × Unit) :=
  Validated.both (fields.optional "board" Board.standard BoardConfig.ofValue)
    (Validated.both (fields.optional "parser" Mode.strict Mode.ofValue) (unknown fields))

/-- Settings with other flags. -/
def flagged (opening : CommandLine.Opening) (settings : Settings) : Settings :=
  { settings with
    jsonOutput := opening.jsonOutput
    quiet := opening.quiet
    verbose := opening.verbose
    logJson := opening.logJson }

end Settings

namespace CommandLine

open Settings (fileLayer environmentLayer locate givable merge partsOf ofFields)

variable {around : Surroundings} {opening other : Opening} {settings : Settings}
  {file fields environment : Fields}

/-! ## Flags read by themselves -/

/-- Settings from fields that give all four flags. -/
theorem ofFields_of_flags (path : Option Path)
    (h : ∀ flag : Flag, fields.get? flag.name = some (.bool (flag.isOn opening))) :
    ofFields path fields =
      (fun parts => ⟨path, opening.jsonOutput, opening.quiet, opening.verbose, opening.logJson,
        parts.1, parts.2.1⟩) <$> partsOf fields := by
  have hflag (flag : Flag) :
      fields.optional flag.name false readBoolean = .ok (flag.isOn opening) := by
    rw [Fields.optional, h flag]
    rfl
  have hjsonOutput := hflag .jsonOutput
  have hquiet := hflag .quiet
  have hverbose := hflag .verbose
  have hlogJson := hflag .logJson
  simp only [Flag.name, Flag.isOn] at hjsonOutput hquiet hverbose hlogJson
  have hparts : Validated.both (fields.optional "board" Board.standard BoardConfig.ofValue)
      (Validated.both (fields.optional "parser" Mode.strict Mode.ofValue)
        (Settings.unknown fields)) = partsOf fields :=
    rfl
  simp only [ofFields, hjsonOutput, hquiet, hverbose, hlogJson, hparts]
  -- the flags are there, so all problems are those of the other parts
  cases partsOf fields <;> rfl

/-- What settings have besides their flags does not depend on the flags of the call. -/
theorem partsOf_congr (henvironment : environment.keys.Nodup) :
    partsOf (givable (merge [opening.flags, environment, file])) =
      partsOf (givable (merge [other.flags, environment, file])) := by
  have hget (key : String) (hkey : key ≠ "config_path")
      (hflags : opening.flags.get? key = other.flags.get? key) :
      (givable (merge [opening.flags, environment, file])).get? key =
        (givable (merge [other.flags, environment, file])).get? key := by
    rw [get?_merge henvironment hkey, get?_merge henvironment hkey, hflags]
  have hkeys : (givable (merge [opening.flags, environment, file])).keys =
      (givable (merge [other.flags, environment, file])).keys := by
    -- the names of the flags are the same four for every call
    have hflags : opening.flags.keys = other.flags.keys := rfl
    have hmerge := Fields.keys_over_congr
      (Fields.keys_over_congr hflags (Eq.refl environment.keys)) (Eq.refl file.keys)
    rw [Settings.keys_givable, Settings.keys_givable, Settings.merge_layers, Settings.merge_layers,
      hmerge]
  rw [partsOf, Fields.optional, Fields.optional, hget "board" (by decide) rfl,
    hget "parser" (by decide) rfl, Settings.unknown_congr hkeys]
  rfl

/-- The settings of a call are those of any other with the same words for the rest, but for the four
flags. Either call fails just if the other does, and for the same reason. -/
theorem load_flagged (around : Surroundings) (explicit : Option String) (start : Option Path)
    (opening other : Opening) :
    Settings.load around explicit start other.flags =
      Settings.flagged other <$> Settings.load around explicit start opening.flags := by
  cases Settings.stage around explicit start opening.flags with
  | unlocated failure hpath hload =>
    rw [hload, Settings.load_of_unlocated hpath]
    rfl
  | unread path failure hpath hfile hload =>
    rw [hload, Settings.load_of_unread hpath hfile]
    rfl
  | illegible path file failure hpath hfile henvironment hload =>
    rw [hload, Settings.load_of_illegible hpath hfile henvironment]
    rfl
  | layers path file environment hpath hfile henvironment =>
    have hnodup := Settings.nodup_of_environmentLayer henvironment
    rw [Settings.load_of_layers hpath hfile henvironment,
      Settings.load_of_layers hpath hfile henvironment,
      ofFields_of_flags path (get?_merge_flags hnodup),
      ofFields_of_flags path (get?_merge_flags hnodup), partsOf_congr hnodup]
    cases partsOf (givable (merge [opening.flags, environment, file])) <;> rfl

end CommandLine

end Tabletop
