import Tabletop.Proofs.Settings.Precedence
import Tabletop.Proofs.Text.Utf8

/-!
# Failures that are not told

Most failures of the settings are told as faults of the user. Four things let another failure
through: a path to the settings file that cannot be followed, a file that is no UTF-8, a file that
goes beyond what its reader takes, and a variable of a section that does not hold JSON
(`Escapes`). Without any of these the settings are put together or the failure is told
(`exists_untold_iff`), whatever the flags are and whatever the values stand for.
-/

set_option autoImplicit false

namespace Tabletop

/-- A fault of a document that goes beyond what its reader takes. -/
def Toml.Fault.IsLimit : Toml.Fault → Prop
  | .syntactic .. => False
  | .tooManyDigits _ => True
  | .tooDeep => True

namespace Settings

variable {around : Surroundings} {explicit : Option String} {start path : Option Path}
  {flags : Fields} {failure : SettingsFailure}

/-- What is found around a run lets a failure of its settings through. -/
inductive Escapes (around : Surroundings) (explicit : Option String) (start : Option Path) : Prop
  /-- The path to a settings file cannot be followed. -/
  | place (failure : PathFailure)
      (hpath : locate around explicit start = .error (.unfollowed failure))
  /-- The settings file is no UTF-8. -/
  | bytes (path : Path) (bytes : List UInt8)
      (hpath : locate around explicit start = .ok (some path))
      (hread : around.tree.read path = .ok bytes)
      (hbytes : ∀ cs, bytes ≠ Text.Utf8.encode cs)
  /-- The settings file goes beyond what its reader takes. -/
  | document (path : Path) (text : List Char) (misreading : Toml.Misreading)
      (hpath : locate around explicit start = .ok (some path))
      (hread : around.tree.read path = .ok (Text.Utf8.encode text))
      (hdocument : Toml.read around.nesting.toml text = .error misreading)
      (hlimit : misreading.fault.IsLimit)
  /-- A variable of a section does not hold JSON. -/
  | json (path : Option Path) (file : Fields) (part : String) (entry : String × String)
      (hpath : locate around explicit start = .ok path)
      (hfile : fileLayer around.nesting.toml around.tree path = .ok file)
      (hpart : part ∈ sections.map Prod.fst)
      (hentry : lastNamed around.environment (variableStart ++ part) = some entry)
      (hjson : ∀ value, Json.readWithin around.nesting.json entry.2 ≠ .ok value)

/-! ## The place of the file -/

/-- A file that is named is not looked for anywhere else. -/
theorem locate_of_named {name : String}
    (h : namedFile? explicit (List.lookup fileVariable around.environment) = some name)
    (start : Option Path) :
    locate around explicit start =
      match around.tree.isFile (Path.ofText name) with
      | .error failure => .error (.unfollowed failure)
      | .ok true => .ok (some (Path.ofText name))
      | .ok false => .error (.noFile (Path.ofText name)) := by
  cases hfile : around.tree.isFile (Path.ofText name) with
  | error failure => simp only [locate, h, hfile]
  | ok isFile => cases isFile <;> simp only [locate, h, hfile]

theorem isFile_of_firstHolding {tree : FileTree} {places : List (List String)} {path : Path}
    (h : firstHolding tree places = .ok (some path)) : tree.isFile path = .ok true := by
  induction places with
  | nil => cases h
  | cons place places ih =>
    rw [firstHolding] at h
    cases hfile : tree.isFile (Path.absolute (place ++ [fileName])) with
    | error failure =>
      rw [hfile] at h
      cases h
    | ok isFile =>
      rw [hfile] at h
      cases isFile with
      | true =>
        cases h
        exact hfile
      | false => exact ih h

/-- A settings file to go by can be read. -/
theorem exists_bytes_of_locate {path : Path} (h : locate around explicit start = .ok (some path)) :
    ∃ bytes, around.tree.read path = .ok bytes := by
  apply FileTree.isFile_eq_true_iff.1
  unfold locate at h
  split at h
  · dsimp only at h
    split at h
    · cases h
    · rename_i hfile
      cases h
      exact hfile
    · cases h
  · dsimp only at h
    cases hplace : startPlace around.tree start with
    | error failure =>
      rw [hplace] at h
      cases h
    | ok place =>
      rw [hplace] at h
      dsimp only [bind, Except.bind] at h
      split at h
      · cases h
      · rename_i found hfound
        cases h
        exact isFile_of_firstHolding hfound

theorem locate_error (h : locate around explicit start = .error failure) :
    failure.isUsage = true ∨ ∃ cause, failure = .unfollowed cause := by
  unfold locate at h
  split at h
  · dsimp only at h
    split at h
    · cases h
      exact .inr ⟨_, rfl⟩
    · cases h
    · cases h
      exact .inl rfl
  · dsimp only at h
    split at h
    · cases h
      exact .inr ⟨_, rfl⟩
    · cases h

/-! ## The file -/

theorem isUsage_notToml_iff {path : Path} {misreading : Toml.Misreading} :
    (SettingsFailure.notToml path misreading).isUsage = false ↔ misreading.fault.IsLimit := by
  obtain ⟨document, fault⟩ := misreading
  cases fault <;> simp [SettingsFailure.isUsage, Toml.Fault.IsLimit]

/-- A file that is found fails untold for its bytes or for what goes beyond its reader. -/
theorem escapes_of_fileLayer (hpath : locate around explicit start = .ok path)
    (h : fileLayer around.nesting.toml around.tree path = .error failure)
    (huntold : failure.isUsage = false) :
    Escapes around explicit start := by
  cases path with
  | none => cases h
  | some path =>
    obtain ⟨bytes, hread⟩ := exists_bytes_of_locate hpath
    simp only [fileLayer, hread] at h
    cases hdecode : Text.Utf8.decode bytes with
    | error fault =>
      apply Escapes.bytes path bytes hpath hread
      rintro cs hcs
      cases hdecode.symm.trans (Text.Utf8.decode_eq_ok_iff.2 hcs)
    | ok text =>
      have hbytes := Text.Utf8.decode_eq_ok_iff.1 hdecode
      simp only [hdecode] at h
      cases hdocument : Toml.read around.nesting.toml text with
      | ok tables =>
        rw [hdocument] at h
        cases h
      | error misreading =>
        rw [hdocument] at h
        cases h
        exact .document path text misreading hpath (hbytes ▸ hread) hdocument
          (isUsage_notToml_iff.1 huntold)

/-! ## The variables of sections -/

/-- A section fails just if its variable does not hold JSON that is read. -/
theorem sectionValue_fails_iff {depth : Nat} {environment : List (String × String)} {part : String}
    {names : List String} :
    (∃ failure, sectionValue depth (lowered environment) part names = .error failure) ↔
      ∃ entry, lastNamed environment (variableStart ++ part) = some entry ∧
        ∀ value, Json.readWithin depth entry.2 ≠ .ok value := by
  unfold sectionValue
  rw [get?_lowered]
  cases lastNamed environment (variableStart ++ part) with
  | none =>
    by_cases hempty : (refinements (lowered environment) part).isEmpty = true <;> simp [hempty]
  | some entry =>
    simp only [Option.map_some, Option.some.injEq, exists_eq_left']
    cases Json.readWithin depth entry.2 with
    | error fault => cases fault <;> simp
    | ok value => cases value <;> simp

theorem isUsage_of_sectionValue {depth : Nat} {entries : Fields} {part : String}
    {names : List String} (h : sectionValue depth entries part names = .error failure) :
    failure.isUsage = false := by
  unfold sectionValue at h
  dsimp only at h
  repeat' split at h
  all_goals cases h
  all_goals rfl

theorem isUsage_of_sectionFields {depth : Nat} {entries : Fields}
    {parts : List (String × List String)} (h : sectionFields depth entries parts = .error failure) :
    failure.isUsage = false := by
  induction parts with
  | nil => cases h
  | cons first parts ih =>
    obtain ⟨part, names⟩ := first
    rw [sectionFields] at h
    cases hvalue : sectionValue depth entries part names with
    | error found =>
      rw [hvalue] at h
      cases h
      exact isUsage_of_sectionValue hvalue
    | ok value =>
      rw [hvalue] at h
      dsimp only at h
      cases hrest : sectionFields depth entries parts with
      | error found =>
        rw [hrest] at h
        cases h
        exact ih hrest
      | ok fields =>
        rw [hrest] at h
        cases h

/-- The environment fails just if one of its sections does, and never as a fault that is told. -/
theorem environmentLayer_fails_iff {depth : Nat} {environment : List (String × String)} :
    (∃ failure, environmentLayer depth environment = .error failure) ↔
      ∃ part ∈ sections.map Prod.fst, ∃ entry,
        lastNamed environment (variableStart ++ part) = some entry ∧
          ∀ value, Json.readWithin depth entry.2 ≠ .ok value := by
  constructor
  · rintro ⟨failure, hfailure⟩
    by_contra hnone
    have hall : ∀ s ∈ sections,
        ∃ value, sectionValue depth (lowered environment) s.1 s.2 = .ok value := by
      intro s hs
      by_contra hvalue
      obtain ⟨entry, hentry, hjson⟩ :=
        sectionValue_fails_iff.1 (exists_error_iff.2 (not_exists.1 hvalue))
      exact hnone ⟨s.1, List.mem_map_of_mem hs, entry, hentry, hjson⟩
    cases hfailure.symm.trans (environmentLayer_eq_ok_iff.2 ⟨hall, rfl⟩)
  · rintro ⟨part, hpart, entry, hentry, hjson⟩
    obtain ⟨s, hs, rfl⟩ := List.mem_map.1 hpart
    apply exists_error_iff.2
    intro fields hfields
    obtain ⟨value, hvalue⟩ := (environmentLayer_eq_ok_iff.1 hfields).1 s hs
    obtain ⟨failure, hfailure⟩ := sectionValue_fails_iff.2 ⟨entry, hentry, hjson⟩
    cases hvalue.symm.trans hfailure

theorem isUsage_of_environmentLayer {depth : Nat} {environment : List (String × String)}
    (h : environmentLayer depth environment = .error failure) : failure.isUsage = false := by
  unfold environmentLayer at h
  dsimp only at h
  split at h
  · rename_i hfields
    cases h
    exact isUsage_of_sectionFields hfields
  · cases h

/-! ## The settings as a whole -/

/-- The settings fail untold just if one of four things lets a failure through, whatever the flags
are. -/
theorem exists_untold_iff :
    (∃ failure, load around explicit start flags = .error failure ∧ failure.isUsage = false) ↔
      Escapes around explicit start := by
  constructor
  · rintro ⟨failure, hfailure, huntold⟩
    cases stage around explicit start flags with
    | unlocated found hpath hload =>
      cases hfailure.symm.trans hload
      rcases locate_error hpath with htold | ⟨cause, rfl⟩
      · cases huntold.symm.trans htold
      · exact .place cause hpath
    | unread path found hpath hfile hload =>
      cases hfailure.symm.trans hload
      exact escapes_of_fileLayer hpath hfile huntold
    | illegible path file found hpath hfile henvironment hload =>
      obtain ⟨part, hpart, entry, hentry, hjson⟩ :=
        environmentLayer_fails_iff.1 ⟨found, henvironment⟩
      exact .json path file part entry hpath hfile hpart hentry hjson
    | layers path file environment hpath hfile henvironment =>
      -- with all three layers there, only a value can be at fault, and that is told
      rw [load_of_layers hpath hfile henvironment] at hfailure
      split at hfailure
      · cases hfailure
      · cases hfailure
        cases huntold
  · intro h
    cases h with
    | place failure hpath => exact ⟨_, load_of_unlocated hpath, rfl⟩
    | bytes path bytes hpath hread hbytes =>
      obtain ⟨fault, hdecode⟩ : ∃ fault, Text.Utf8.decode bytes = .error fault := by
        apply exists_error_iff.2
        intro cs hcs
        exact hbytes cs (Text.Utf8.decode_eq_ok_iff.1 hcs)
      have hfile : fileLayer around.nesting.toml around.tree (some path) =
          .error (.undecodable fault) := by
        simp only [fileLayer, hread, hdecode]
      exact ⟨_, load_of_unread hpath hfile, rfl⟩
    | document path text misreading hpath hread hdocument hlimit =>
      have hdecode := Text.Utf8.decode_eq_ok_iff.2 (rfl : Text.Utf8.encode text = _)
      have hfile : fileLayer around.nesting.toml around.tree (some path) =
          .error (.notToml path misreading) := by
        simp only [fileLayer, hread, hdecode, hdocument]
      exact ⟨_, load_of_unread hpath hfile, isUsage_notToml_iff.2 hlimit⟩
    | json path file part entry hpath hfile hpart hentry hjson =>
      obtain ⟨failure, hfailure⟩ :=
        environmentLayer_fails_iff.2 ⟨part, hpart, entry, hentry, hjson⟩
      exact ⟨failure, load_of_illegible hpath hfile hfailure,
        isUsage_of_environmentLayer hfailure⟩

end Settings

end Tabletop
