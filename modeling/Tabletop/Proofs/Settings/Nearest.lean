import Tabletop.Proofs.Files.Walk
import Tabletop.Proofs.Settings.Escape

/-!
# The nearest settings file

A settings file that is named is the one to go by, or it is missed. If none is named it is the
nearest one on the way up from a directory (`Nearest`): directories of the usual name do not count,
nor does what stands beside the way or further up.

Both hold as far as paths go that the system takes. One that is too long to be looked up is not
missed but ends in a failure of the system (`unfollowed_overlong`), also on the way up.
-/

set_option autoImplicit false

namespace Tabletop.Settings

open FileTree (IsEntryName upwards maxPathLength)

variable {around : Surroundings} {explicit : Option String} {start : Option Path}
  {tree : FileTree} {place directory : List String} {name : String}

/-! ## The two ways to a settings file -/

/-- A settings file is named, by the caller or else by the environment. An empty name is none. -/
inductive Named (around : Surroundings) (explicit : Option String) (name : String) : Prop
  | byCaller (hname : name ≠ "") (hexplicit : explicit = some name)
  | byVariable (hname : name ≠ "") (hexplicit : explicit = none ∨ explicit = some "")
    (hvariable : List.lookup fileVariable around.environment = some name)

/-- The directory from which a settings file is looked for: the one that the start leads to, or else
the working directory. -/
inductive StartsAt (tree : FileTree) : Option Path → List String → Prop
  | given {path : Path} {place : List String}
    (hleads : tree.Leads (tree.origin path) path.names place) : StartsAt tree (some path) place
  | working : StartsAt tree none tree.workingDirectory

/-- The file of the usual name in a directory. -/
def usualFile (directory : List String) : Path :=
  Path.absolute (directory ++ [fileName])

/-- Whether a directory holds a file of the usual name. -/
def holdsUsual (tree : FileTree) (directory : List String) : Bool :=
  tree.holdsFile (directory ++ [fileName])

/-- The first directory with a settings file on the way up from a place. -/
structure Nearest (tree : FileTree) (place directory : List String) : Prop where
  above : directory <+: place
  holds : holdsUsual tree directory = true
  closest : ∀ other, other <+: place → holdsUsual tree other = true → other <+: directory

/-- Without a name from the caller, or with an empty one, it is the variable that names a file. -/
theorem namedFile?_of_unused (h : explicit = none ∨ explicit = some "")
    (byVariable : Option String) :
    namedFile? explicit byVariable = byVariable.filter (· != "") := by
  rcases h with rfl | rfl <;> rfl

theorem named_iff :
    Named around explicit name ↔
      namedFile? explicit (List.lookup fileVariable around.environment) = some name := by
  by_cases hunused : explicit = none ∨ explicit = some ""
  · rw [namedFile?_of_unused hunused, Option.filter_eq_some_iff, bne_iff_ne]
    constructor
    · rintro (⟨hname, rfl⟩ | ⟨hname, -, hvariable⟩)
      · rcases hunused with hnone | hempty
        · cases hnone
        · exact absurd (Option.some.inj hempty) hname
      · exact ⟨hvariable, hname⟩
    · rintro ⟨hvariable, hname⟩
      exact .byVariable hname hunused hvariable
  · obtain ⟨hnone, hempty⟩ := not_or.1 hunused
    obtain ⟨given, rfl⟩ := Option.ne_none_iff_exists'.1 hnone
    have hgiven : given ≠ "" := fun h => hempty (congrArg some h)
    have hnamed (byVariable : Option String) : namedFile? (some given) byVariable = some given := by
      simp [namedFile?, hgiven]
    rw [hnamed, Option.some_inj]
    constructor
    · rintro (⟨-, hexplicit⟩ | ⟨-, hexplicit, -⟩)
      · exact Option.some.inj hexplicit
      · exact absurd hexplicit hunused
    · rintro rfl
      exact .byCaller hgiven rfl

theorem locate_of_unnamed (hunnamed : ∀ name, ¬ Named around explicit name)
    (hplace : startPlace around.tree start = .ok place) :
    locate around explicit start =
      match firstHolding around.tree (upwards place) with
      | .error failure => .error (.unfollowed failure)
      | .ok found => .ok found := by
  have hnone : namedFile? explicit (List.lookup fileVariable around.environment) = none :=
    Option.eq_none_iff_forall_ne_some.2 fun name hname => hunnamed name (named_iff.2 hname)
  simp only [locate, hnone, hplace]
  rfl

/-! ## One directory -/

theorem isEntryName_fileName : IsEntryName fileName := by
  decide +kernel

section

variable (htree : tree.WellFormed)

include htree

/-- In a directory a file of the usual name is found if it is there. -/
theorem isFile_usualFile (hplace : tree.node? place = some .directory)
    (hsize : (usualFile place).text.utf8ByteSize ≤ maxPathLength) :
    tree.isFile (usualFile place) = .ok (holdsUsual tree place) := by
  have hstat : tree.stat (usualFile place).text = tree.follow (place ++ [fileName]) [] :=
    FileTree.stat_absolute htree hplace isEntryName_fileName hsize
  rw [FileTree.isFile, hstat, FileTree.follow, holdsUsual, FileTree.holdsFile]
  cases tree.node? (place ++ [fileName]) with
  | none => rfl
  | some node => cases node <;> rfl

theorem isFile_usualFile_long (hplace : tree.node? place = some .directory)
    (hsize : maxPathLength < (usualFile place).text.utf8ByteSize) :
    tree.isFile (usualFile place) = .error ⟨.nameTooLong, (usualFile place).text⟩ := by
  have hstat : tree.stat (usualFile place).text = .error .nameTooLong :=
    FileTree.stat_absolute_long (htree.forall_isEntryName hplace isEntryName_fileName) hsize
  rw [FileTree.isFile, hstat]

end

/-! ## The way up -/

theorem firstHolding_cons (tree : FileTree) (place : List String) (places : List (List String)) :
    firstHolding tree (place :: places) =
      match tree.isFile (usualFile place) with
      | .error failure => .error failure
      | .ok true => .ok (some (usualFile place))
      | .ok false => firstHolding tree places :=
  rfl

/-- The walk stops at the first directory that holds a file of the usual name. -/
theorem firstHolding_eq_find? {places : List (List String)}
    (h : ∀ place ∈ places, tree.isFile (usualFile place) = .ok (holdsUsual tree place)) :
    firstHolding tree places = .ok ((places.find? (holdsUsual tree)).map usualFile) := by
  induction places with
  | nil => rfl
  | cons place places ih =>
    obtain ⟨hplace, hplaces⟩ := List.forall_mem_cons.1 h
    rw [firstHolding_cons, List.find?_cons, hplace]
    cases holdsUsual tree place with
    | true => rfl
    | false => exact ih hplaces

/-- What is first on the way up is nearest. -/
theorem find?_upwards_iff :
    (upwards place).find? (holdsUsual tree) = some directory ↔ Nearest tree place directory := by
  induction place using List.reverseRecOn with
  | nil =>
    rw [FileTree.upwards_nil, List.find?_singleton]
    constructor
    · intro h
      split at h
      · rename_i hroot
        cases h
        exact ⟨List.prefix_rfl, hroot, fun other habove _ => habove⟩
      · cases h
    · rintro ⟨habove, hholds, -⟩
      rw [List.prefix_nil.1 habove] at hholds ⊢
      rw [if_pos hholds]
  | append_singleton place name ih =>
    rw [FileTree.upwards_concat, List.find?_cons]
    cases hhere : holdsUsual tree (place ++ [name]) with
    | true =>
      constructor
      · intro h
        cases h
        exact ⟨List.prefix_rfl, hhere, fun other habove _ => habove⟩
      · rintro ⟨habove, -, hclosest⟩
        have hbelow := hclosest _ List.prefix_rfl hhere
        rw [habove.eq_of_length (Nat.le_antisymm habove.length_le hbelow.length_le)]
    | false =>
      dsimp only
      rw [ih]
      -- the lowest place of the way holds no such file, so the way begins above it
      have hway (other : List String) (habove : other <+: place ++ [name])
          (hholds : holdsUsual tree other = true) : other <+: place := by
        rcases List.prefix_concat_iff.1 habove with rfl | habove
        · rw [hhere] at hholds
          cases hholds
        · exact habove
      constructor
      · rintro ⟨habove, hholds, hclosest⟩
        refine ⟨habove.trans (List.prefix_append _ _), hholds, ?_⟩
        exact fun other hother hheld => hclosest other (hway other hother hheld) hheld
      · rintro ⟨habove, hholds, hclosest⟩
        refine ⟨hway directory habove hholds, hholds, ?_⟩
        exact fun other hother => hclosest other (hother.trans (List.prefix_append _ _))

section

variable (htree : tree.WellFormed)

include htree

theorem node?_of_startsAt (h : StartsAt tree start place) :
    tree.node? place = some .directory := by
  cases h with
  | given hleads => exact hleads.node?_last
  | working => exact htree.workingDirectory

theorem startPlace_of_startsAt (h : StartsAt tree start place) :
    startPlace tree start = .ok place := by
  cases h with
  | working => rfl
  | given hleads =>
    have hzero := FileTree.holdsZero_text (hleads.zero_not_mem htree)
    rw [startPlace, hzero, if_neg Bool.false_ne_true, hleads.resolve_eq]

/-- From a directory that is not too deep all directories on the way up are looked into. -/
theorem firstHolding_upwards (hplace : tree.node? place = some .directory)
    (hsize : (usualFile place).text.utf8ByteSize ≤ maxPathLength) :
    firstHolding tree (upwards place) =
      .ok (((upwards place).find? (holdsUsual tree)).map usualFile) := by
  apply firstHolding_eq_find?
  intro directory hdirectory
  have habove := FileTree.mem_upwards.1 hdirectory
  have hnames : (directory ++ [fileName]).Sublist (place ++ [fileName]) :=
    habove.sublist.append_right [fileName]
  exact isFile_usualFile htree (htree.node?_of_prefix hplace habove)
    ((FileTree.size_absolute_le hnames).trans hsize)

/-- From a directory that is too deep none is looked into. -/
theorem firstHolding_upwards_long (hplace : tree.node? place = some .directory)
    (hsize : maxPathLength < (usualFile place).text.utf8ByteSize) :
    firstHolding tree (upwards place) = .error ⟨.nameTooLong, (usualFile place).text⟩ := by
  have hlong := isFile_usualFile_long htree hplace hsize
  obtain ⟨rest, hrest⟩ : ∃ rest, upwards place = place :: rest := by
    rcases List.eq_nil_or_concat' place with rfl | ⟨above, name, rfl⟩
    · exact ⟨[], rfl⟩
    · exact ⟨_, FileTree.upwards_concat above name⟩
  rw [hrest, firstHolding_cons, hlong]

end

/-! ## The file to go by -/

/-- A named settings file is the one to go by if it is a file, and otherwise it is missed, wherever
the search would start and whatever else there is; only a path that is too long to be looked up ends
in that failure instead. If no file is named, the settings file is the one in the directory that is
nearest on the way up, and there is none if no directory on the way holds one, from every directory
that is not too deep for its path to be taken. -/
theorem locate_nearest (around : Surroundings) (explicit : Option String) (start : Option Path) :
    (∀ name, Named around explicit name →
      let path := Path.ofText name
      ((∃ bytes, around.tree.stat path.text = .ok (.file bytes)) →
        locate around explicit start = .ok (some path)) ∧
      ((∀ bytes, around.tree.stat path.text ≠ .ok (.file bytes)) → FileTree.Fits path →
        ∃ failure, locate around explicit start = .error failure ∧ failure.isUsage = true ∧
          failure.message = "Config file not found: " ++ path.text) ∧
      ((∀ bytes, around.tree.stat path.text ≠ .ok (.file bytes)) →
        locate around explicit start =
          if around.tree.stat path.text = .error .nameTooLong then
            .error (.unfollowed ⟨.nameTooLong, path.text⟩)
          else .error (.noFile path))) ∧
    (∀ place, (∀ name, ¬ Named around explicit name) → around.tree.WellFormed →
      StartsAt around.tree start place →
        ((usualFile place).text.utf8ByteSize ≤ maxPathLength →
          (∀ path, locate around explicit start = .ok (some path) ↔
            ∃ directory, Nearest around.tree place directory ∧ path = usualFile directory) ∧
          (locate around explicit start = .ok none ↔
            ∀ directory, directory <+: place → holdsUsual around.tree directory = false)) ∧
        (maxPathLength < (usualFile place).text.utf8ByteSize →
          locate around explicit start =
            .error (.unfollowed ⟨.nameTooLong, (usualFile place).text⟩))) := by
  constructor
  · intro name hname path
    have hlocate : locate around explicit start =
        match around.tree.isFile path with
        | .error failure => .error (.unfollowed failure)
        | .ok true => .ok (some path)
        | .ok false => .error (.noFile path) :=
      locate_of_named (named_iff.1 hname) start
    have hmissed (hnofile : ∀ bytes, around.tree.stat path.text ≠ .ok (.file bytes)) :
        locate around explicit start =
          if around.tree.stat path.text = .error .nameTooLong then
            .error (.unfollowed ⟨.nameTooLong, path.text⟩)
          else .error (.noFile path) := by
      rw [hlocate, FileTree.isFile]
      rcases hstat : around.tree.stat path.text with cause | node
      · cases cause <;> rfl
      · cases node with
        | directory => rfl
        | file bytes => exact absurd hstat (hnofile bytes)
    refine ⟨?_, ?_, hmissed⟩
    · rintro ⟨bytes, hstat⟩
      rw [hlocate, FileTree.isFile, hstat]
    · intro hnofile hfits
      have hshort : around.tree.stat path.text ≠ .error .nameTooLong :=
        FileTree.stat_ne_nameTooLong hfits (Path.ofText_text_ofText name)
      refine ⟨.noFile path, ?_, rfl, rfl⟩
      rw [hmissed hnofile, if_neg hshort]
  · intro place hunnamed htree hstart
    have hplace := node?_of_startsAt htree hstart
    have hlocate := locate_of_unnamed hunnamed (startPlace_of_startsAt htree hstart)
    constructor
    · intro hsize
      rw [firstHolding_upwards htree hplace hsize] at hlocate
      dsimp only at hlocate
      rw [hlocate]
      constructor
      · intro path
        rw [Except.ok.injEq, Option.map_eq_some_iff]
        exact exists_congr fun directory => and_congr find?_upwards_iff eq_comm
      · rw [Except.ok.injEq, Option.map_eq_none_iff, List.find?_eq_none]
        simp only [FileTree.mem_upwards, Bool.not_eq_true]
    · intro hsize
      rw [firstHolding_upwards_long htree hplace hsize] at hlocate
      exact hlocate

/-- A project with a settings file above it and one below, and a directory of that name in it. -/
def directoryInTheWay : Surroundings where
  tree :=
    { directories := [["project"], ["project", fileName], ["project", "parts"]]
      files := [([fileName], []), (["project", "parts", fileName], [0xFF])]
      workingDirectory := ["project"] }
  environment := []

/-- A name that is longer than any name of a file. -/
def overlong : String :=
  String.ofList (List.replicate 256 'a')

theorem directoryInTheWay_unnamed (name : String) : ¬ Named directoryInTheWay none name := by
  rw [named_iff]
  exact fun h => by cases h

theorem directoryInTheWay_wellFormed : directoryInTheWay.tree.WellFormed := by
  decide +kernel

/-- Double dots lead back from the parts to the project. -/
theorem directoryInTheWay_startsAt :
    StartsAt directoryInTheWay.tree (some (Path.ofText "parts/..")) ["project"] := by
  have hnames : (Path.ofText "parts/..").names = ["parts", ".."] := by decide +kernel
  have horigin : directoryInTheWay.tree.origin (Path.ofText "parts/..") = ["project"] := by
    decide +kernel
  apply StartsAt.given
  rw [hnames, horigin]
  refine .step (by decide +kernel) (.step (by decide +kernel) (.here (by decide +kernel)))

theorem directoryInTheWay_nearest : Nearest directoryInTheWay.tree ["project"] [] where
  above := List.nil_prefix
  holds := by decide +kernel
  closest := by
    have hclosest : ∀ other ∈ upwards ["project"],
        holdsUsual directoryInTheWay.tree other = true → other = [] := by
      decide +kernel
    intro other habove hholds
    obtain rfl := hclosest other (FileTree.mem_upwards.2 habove) hholds
    exact List.nil_prefix

/-- From the project, however it is written, the file above it is found, and a file that is named is
taken or missed. -/
theorem locate_nearest_past_directory :
    locate directoryInTheWay none (some (Path.ofText "parts/..")) = .ok (some (usualFile [])) ∧
      locate directoryInTheWay (some "parts/robosim.toml") none =
        .ok (some (Path.ofText "parts/robosim.toml")) ∧
      ∃ failure, locate directoryInTheWay (some "robosim.toml") none = .error failure ∧
        failure.isUsage = true ∧ failure.message = "Config file not found: robosim.toml" := by
  obtain ⟨-, hwalk⟩ := locate_nearest directoryInTheWay none (some (Path.ofText "parts/.."))
  obtain ⟨hbelow, -⟩ := locate_nearest directoryInTheWay (some "parts/robosim.toml") none
  obtain ⟨hhere, -⟩ := locate_nearest directoryInTheWay (some "robosim.toml") none
  obtain ⟨hshort, -⟩ := hwalk ["project"] directoryInTheWay_unnamed directoryInTheWay_wellFormed
    directoryInTheWay_startsAt
  obtain ⟨hfound, -⟩ := hbelow "parts/robosim.toml" (.byCaller (by decide) rfl)
  obtain ⟨-, hmissed, -⟩ := hhere "robosim.toml" (.byCaller (by decide) rfl)
  have hfile :
      directoryInTheWay.tree.stat (Path.ofText "parts/robosim.toml").text = .ok (.file [0xFF]) := by
    decide +kernel
  have hdirectory :
      directoryInTheWay.tree.stat (Path.ofText "robosim.toml").text = .ok .directory := by
    decide +kernel
  have htext : (Path.ofText "robosim.toml").text = "robosim.toml" := by decide +kernel
  have hfits : FileTree.Fits (Path.ofText "robosim.toml") :=
    ⟨by decide +kernel, by decide +kernel⟩
  refine ⟨((hshort (by decide +kernel)).1 _).2 ⟨[], directoryInTheWay_nearest, rfl⟩,
    hfound ⟨_, hfile⟩, ?_⟩
  obtain ⟨failure, hfailure, husage, hmessage⟩ :=
    hmissed (fun bytes hbytes => by cases hdirectory.symm.trans hbytes) hfits
  refine ⟨failure, hfailure, husage, ?_⟩
  rw [hmessage, htext]
  decide

/-- A named file that is not there is not told to be missing if its name is too long. -/
theorem unfollowed_overlong :
    Named directoryInTheWay (some overlong) overlong ∧
      (∀ bytes, directoryInTheWay.tree.stat (Path.ofText overlong).text ≠ .ok (.file bytes)) ∧
      ∃ failure, locate directoryInTheWay (some overlong) none = .error failure ∧
        failure.isUsage = false := by
  have hletters : overlong.toList = List.replicate 256 'a' := String.toList_ofList
  have hlong : FileTree.maxNameLength < overlong.utf8ByteSize := by decide +kernel
  have hname : overlong ≠ "" := by
    intro hempty
    rw [hempty] at hlong
    exact absurd hlong (by decide)
  have hnamed : Named directoryInTheWay (some overlong) overlong := .byCaller hname rfl
  have hother (c : Char) (hc : c ≠ 'a') : c ∉ overlong.toList := by
    rw [hletters]
    exact fun hmem => hc (List.eq_of_mem_replicate hmem)
  have hstat : directoryInTheWay.tree.stat (Path.ofText overlong).text = .error .nameTooLong := by
    apply FileTree.stat_of_long_name (by decide +kernel) ?_ (hother '/' (by decide))
      (hother '\x00' (by decide)) hlong
    rw [hletters]
    decide +kernel
  refine ⟨hnamed, ?_, .unfollowed ⟨.nameTooLong, (Path.ofText overlong).text⟩, ?_, rfl⟩
  · intro bytes hbytes
    cases hstat.symm.trans hbytes
  · rw [locate_of_named (named_iff.1 hnamed), FileTree.isFile, hstat]

end Tabletop.Settings
