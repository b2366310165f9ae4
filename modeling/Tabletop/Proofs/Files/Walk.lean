import Tabletop.Proofs.Files.Alike
import Tabletop.Proofs.Files.Path

/-!
# Ways through a tree of directories

In a tree of directories every entry stands in a directory, under a name that an entry can have
(`WellFormed`). A directory of such a tree can be reached from the root by its own names, and so can
what is in it: its path leads to what stands there, unless it is longer than any path may be
(`stat_absolute`, `stat_absolute_long`).

A path to a directory may be written in many ways. Where it leads is said by `Leads`, one name at a
time through directories that are there, and `resolve` finds the same place (`Leads.resolve_eq`).
-/

set_option autoImplicit false

namespace Tabletop.FileTree

variable {tree : FileTree} {place directory last names : List String} {name : String}

/-! ## Trees of directories -/

/-- A name that an entry of a directory can have. -/
structure IsEntryName (name : String) : Prop where
  ne_empty : name ≠ ""
  ne_dot : name ≠ "."
  ne_dots : name ≠ ".."
  slash : '/' ∉ name.toList
  zero : '\x00' ∉ name.toList
  short : name.utf8ByteSize ≤ maxNameLength

instance (name : String) : Decidable (IsEntryName name) :=
  decidable_of_iff
    (name ≠ "" ∧ name ≠ "." ∧ name ≠ ".." ∧ '/' ∉ name.toList ∧ '\x00' ∉ name.toList ∧
      name.utf8ByteSize ≤ maxNameLength)
    ⟨fun ⟨h₁, h₂, h₃, h₄, h₅, h₆⟩ => ⟨h₁, h₂, h₃, h₄, h₅, h₆⟩,
      fun ⟨h₁, h₂, h₃, h₄, h₅, h₆⟩ => ⟨h₁, h₂, h₃, h₄, h₅, h₆⟩⟩

/-- The places at which a tree has something. -/
def places (tree : FileTree) : List (List String) :=
  tree.directories ++ tree.files.map Prod.fst

/-- Every entry of a tree stands in a directory, under names that entries can have, and the working
directory is a directory. -/
structure WellFormed (tree : FileTree) : Prop where
  parent : ∀ place ∈ tree.places, tree.node? place.dropLast = some .directory
  named : ∀ place ∈ tree.places, ∀ name ∈ place, IsEntryName name
  workingDirectory : tree.node? tree.workingDirectory = some .directory

instance (tree : FileTree) : Decidable tree.WellFormed :=
  decidable_of_iff
    ((∀ place ∈ tree.places, tree.node? place.dropLast = some .directory) ∧
      (∀ place ∈ tree.places, ∀ name ∈ place, IsEntryName name) ∧
      tree.node? tree.workingDirectory = some .directory)
    ⟨fun ⟨h₁, h₂, h₃⟩ => ⟨h₁, h₂, h₃⟩, fun ⟨h₁, h₂, h₃⟩ => ⟨h₁, h₂, h₃⟩⟩

theorem mem_places {node : FileNode} (h : tree.node? place = some node) (hne : place ≠ []) :
    place ∈ tree.places := by
  unfold node? at h
  rw [List.isEmpty_eq_false_iff.2 hne, Bool.false_or] at h
  rw [places, List.mem_append, List.mem_map]
  split at h
  · rename_i hdirectory
    exact .inl (List.contains_iff_mem.1 hdirectory)
  · obtain ⟨bytes, hbytes, -⟩ := Option.map_eq_some_iff.1 h
    obtain ⟨before, after, hfiles, -⟩ := List.lookup_eq_some_iff.1 hbytes
    refine .inr ⟨(place, bytes), ?_, rfl⟩
    rw [hfiles]
    exact List.mem_append_right _ List.mem_cons_self

/-- From a directory a path goes on under any name that an entry can have. -/
theorem follow_cons (hplace : tree.node? place = some .directory) (hname : IsEntryName name) :
    tree.follow place (name :: names) = tree.follow (place ++ [name]) names := by
  have henter : Path.enter place name = place ++ [name] := if_neg hname.ne_dots
  rw [follow, hplace]
  dsimp only
  rw [if_neg (Nat.not_lt.2 hname.short), henter]

namespace WellFormed

variable (h : tree.WellFormed)

include h

/-- What stands in a tree stands in a directory. -/
theorem node?_parent {node : FileNode} (hnode : tree.node? (place ++ [name]) = some node) :
    tree.node? place = some .directory := by
  have hparent := h.parent _ (mem_places hnode (by simp))
  rwa [List.dropLast_concat] at hparent

theorem isEntryName {node : FileNode} (hnode : tree.node? place = some node)
    (hname : name ∈ place) : IsEntryName name :=
  h.named place (mem_places hnode (List.ne_nil_of_mem hname)) name hname

theorem forall_isEntryName {node : FileNode} (hnode : tree.node? place = some node)
    (hname : IsEntryName name) : ∀ other ∈ place ++ [name], IsEntryName other := by
  intro other hother
  rcases List.mem_append.1 hother with hother | hother
  · exact h.isEntryName hnode hother
  · rw [List.mem_singleton.1 hother]
    exact hname

/-- All that is above a directory is a directory. -/
theorem node?_of_prefix (hplace : tree.node? place = some .directory)
    (habove : directory <+: place) : tree.node? directory = some .directory := by
  induction place using List.reverseRecOn with
  | nil => rwa [List.prefix_nil.1 habove]
  | append_singleton place name ih =>
    rcases List.prefix_concat_iff.1 habove with rfl | habove
    · exact hplace
    · exact ih (h.node?_parent hplace) habove

/-- The names of a directory lead to it. -/
theorem follow_of_directory {front rest : List String}
    (hplace : tree.node? (place ++ front) = some .directory) :
    tree.follow place (front ++ rest) = tree.follow (place ++ front) rest := by
  induction front generalizing place with
  | nil => rw [List.append_nil, List.nil_append]
  | cons name front ih =>
    have hname : IsEntryName name := h.isEntryName hplace (by simp)
    -- the place itself is above the directory, so the first name is followed from a directory
    have hhere := h.node?_of_prefix hplace (List.prefix_append place (name :: front))
    rw [List.append_cons] at hplace ⊢
    rw [List.cons_append, follow_cons hhere hname]
    exact ih hplace

end WellFormed

/-! ## Paths from the root -/

theorem toList_text_absolute (names : List String) :
    (Path.absolute names).text.toList = '/' :: ['/'].intercalate (names.map String.toList) := by
  rw [Path.toList_text, if_neg fun hboth => PathStart.noConfusion hboth.1]
  change "/".toList ++ _ = _
  rw [show "/".toList = ['/'] from by decide, List.singleton_append]
  rfl

/-- A path with more names is no shorter. -/
theorem size_absolute_le {front : List String} (h : front.Sublist names) :
    (Path.absolute front).text.utf8ByteSize ≤ (Path.absolute names).text.utf8ByteSize := by
  apply Path.utf8ByteSize_le_of_sublist
  rw [toList_text_absolute, toList_text_absolute]
  exact (Path.intercalate_sublist (h.map String.toList)).cons_cons '/'

/-- A path of names without zeros is written without zeros. -/
theorem holdsZero_text {path : Path} (h : ∀ name ∈ path.names, '\x00' ∉ name.toList) :
    Path.holdsZero path.text = false := by
  rw [Path.holdsZero, ← Bool.not_eq_true, List.contains_iff_mem, Path.toList_text]
  intro hzero
  split at hzero
  · exact absurd hzero (by decide)
  · rcases List.mem_append.1 hzero with hslashes | hzero
    · revert hslashes
      cases path.start <;> decide
    · rcases Text.mem_intercalate hzero with hslash | ⟨piece, hpiece, hzero⟩
      · exact absurd hslash (by decide)
      · obtain ⟨name, hname, rfl⟩ := List.mem_map.1 hpiece
        exact h name hname hzero

theorem ofText_absolute (h : ∀ name ∈ names, IsEntryName name) :
    Path.ofText (Path.absolute names).text = Path.absolute names := by
  apply Path.ofText_text
  intro name hname
  obtain ⟨hempty, hdot, -, hslash, -, -⟩ := h name hname
  refine ⟨?_, hslash⟩
  rw [Path.isName_iff, String.ofList_toList]
  simp [hempty, hdot]

/-- A path from the root that is not too long leads to what stands in the directory. -/
theorem stat_absolute (h : tree.WellFormed) (hplace : tree.node? place = some .directory)
    (hname : IsEntryName name)
    (hsize : (Path.absolute (place ++ [name])).text.utf8ByteSize ≤ maxPathLength) :
    tree.stat (Path.absolute (place ++ [name])).text = tree.follow (place ++ [name]) [] := by
  have hnames := h.forall_isEntryName hplace hname
  have hempty : (Path.absolute (place ++ [name])).text ≠ "" := by
    rw [Ne, ← String.toList_inj, toList_text_absolute]
    exact List.cons_ne_nil _ _
  have hfollow : tree.follow [] (place ++ [name]) = tree.follow place [name] :=
    h.follow_of_directory hplace
  have hzero : Path.holdsZero (Path.absolute (place ++ [name])).text = false :=
    holdsZero_text fun other hother => (hnames other hother).zero
  rw [stat, hzero, if_neg Bool.false_ne_true, if_neg (Nat.not_lt.2 hsize),
    if_neg hempty, ofText_absolute hnames]
  change tree.follow [] (place ++ [name]) = _
  rw [hfollow, follow_cons hplace hname]

theorem stat_absolute_long (h : ∀ name ∈ names, IsEntryName name)
    (hsize : maxPathLength < (Path.absolute names).text.utf8ByteSize) :
    tree.stat (Path.absolute names).text = .error .nameTooLong := by
  have hzero : Path.holdsZero (Path.absolute names).text = false :=
    holdsZero_text fun name hname => (h name hname).zero
  rw [stat, hzero, if_neg Bool.false_ne_true, if_pos hsize]

/-! ## Paths that are too long -/

/-- A path that the system takes: it is not too long, and none of its names is. -/
structure Fits (path : Path) : Prop where
  text : path.text.utf8ByteSize ≤ maxPathLength
  names : ∀ name ∈ path.names, name.utf8ByteSize ≤ maxNameLength

theorem follow_ne_nameTooLong (h : ∀ name ∈ names, name.utf8ByteSize ≤ maxNameLength) :
    tree.follow place names ≠ .error .nameTooLong := by
  induction names generalizing place with
  | nil =>
    rw [follow]
    cases tree.node? place with
    | none => exact fun hlong => by cases hlong
    | some node => exact fun hlong => by cases hlong
  | cons name names ih =>
    obtain ⟨hname, hnames⟩ := List.forall_mem_cons.1 h
    rw [follow]
    cases tree.node? place with
    | none => exact fun hlong => by cases hlong
    | some node =>
      cases node with
      | file bytes => exact fun hlong => by cases hlong
      | directory =>
        dsimp only
        rw [if_neg (Nat.not_lt.2 hname)]
        exact ih hnames

/-- Nothing is too long about a path that the system takes. -/
theorem stat_ne_nameTooLong {path : Path} (h : Fits path) (hself : Path.ofText path.text = path) :
    tree.stat path.text ≠ .error .nameTooLong := by
  rw [stat, hself]
  split
  · exact fun hlong => by cases hlong
  · rw [if_neg (Nat.not_lt.2 h.text)]
    split
    · exact fun hlong => by cases hlong
    · exact follow_ne_nameTooLong h.names

/-- A name that is too long cannot be looked up in the working directory. -/
theorem stat_of_long_name (hplace : tree.node? tree.workingDirectory = some .directory)
    (hname : Path.isName name.toList = true) (hslash : '/' ∉ name.toList)
    (hzero : '\x00' ∉ name.toList) (hlong : maxNameLength < name.utf8ByteSize) :
    tree.stat (Path.ofText name).text = .error .nameTooLong := by
  obtain ⟨hpath, htext⟩ := Path.ofText_name hname hslash
  have hholds : Path.holdsZero name = false := by
    rw [Path.holdsZero, ← Bool.not_eq_true, List.contains_iff_mem]
    exact hzero
  have hempty : name ≠ "" := by
    rintro rfl
    exact absurd hname (by decide)
  rw [htext, stat, hpath, hholds, if_neg Bool.false_ne_true, if_neg hempty]
  dsimp only
  rw [if_pos rfl, follow, hplace]
  dsimp only
  rw [if_pos hlong, ite_self]

/-! ## The way up -/

theorem upwards_nil : upwards [] = [[]] :=
  rfl

theorem upwards_concat (place : List String) (name : String) :
    upwards (place ++ [name]) = (place ++ [name]) :: upwards place := by
  -- the whole place comes first, and then what the shorter place begins with
  unfold upwards
  rw [List.length_append, List.length_singleton, List.range_succ_eq_map, List.map_cons,
    List.map_map, Nat.sub_zero]
  congr 1
  · rw [List.take_of_length_le (by simp)]
  · apply List.map_congr_left
    intro n hn
    have hle : place.length + 1 - n.succ ≤ place.length := by omega
    rw [Function.comp_apply, List.take_append_of_le_length hle, Nat.succ_eq_add_one,
      Nat.add_sub_add_right]

/-- The way up goes through all that is above a place. -/
theorem mem_upwards : directory ∈ upwards place ↔ directory <+: place := by
  induction place using List.reverseRecOn with
  | nil => rw [upwards_nil, List.mem_singleton, List.prefix_nil]
  | append_singleton place name ih =>
    rw [upwards_concat, List.mem_cons, ih, List.prefix_concat_iff]

/-! ## Ways to write a directory -/

/-- From a directory, names lead to another directory, each of them through directories. -/
inductive Leads (tree : FileTree) : List String → List String → List String → Prop
  | here {place : List String} (hplace : tree.node? place = some .directory) :
    Leads tree place [] place
  | step {place names last : List String} {name : String}
    (hplace : tree.node? place = some .directory)
    (hrest : Leads tree (Path.enter place name) names last) :
    Leads tree place (name :: names) last

theorem Leads.node?_last (h : tree.Leads place names last) :
    tree.node? last = some .directory := by
  induction h with
  | here hplace => exact hplace
  | step hplace hrest ih => exact ih

theorem Leads.node?_first (h : tree.Leads place names last) :
    tree.node? place = some .directory := by
  cases h with
  | here hplace => exact hplace
  | step hplace hrest => exact hplace

theorem Leads.foldl_enter (h : tree.Leads place names last) :
    names.foldl Path.enter place = last := by
  induction h with
  | here hplace => rfl
  | step hplace hrest ih => exact ih

/-- Names that lead through directories are names of entries, or double dots. -/
theorem Leads.zero_not_mem (h : tree.Leads place names last) (htree : tree.WellFormed) :
    ∀ name ∈ names, '\x00' ∉ name.toList := by
  induction h with
  | here hplace => exact List.forall_mem_nil _
  | @step place names last name hplace hrest ih =>
    refine List.forall_mem_cons.2 ⟨?_, ih⟩
    by_cases hdots : name = ".."
    · rw [hdots]
      decide
    · -- the name is that of the directory that is entered
      have hnext := hrest.node?_first
      rw [Path.enter, if_neg hdots] at hnext
      exact (htree.isEntryName hnext (by simp)).zero

/-- A path leads from where it starts to a directory, that is to the one that it comes to without
its double dots. -/
theorem Leads.resolve_eq {path : Path} (h : tree.Leads (tree.origin path) path.names last) :
    path.resolve tree.workingDirectory = last :=
  h.foldl_enter

end Tabletop.FileTree
