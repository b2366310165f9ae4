import Tabletop.Files.Tree

/-!
# Trees that differ in some files

Two trees are alike but for some places if nothing that is a directory stands at these places in
either, and the same stands everywhere else (`AlikeBut`). A path may then lead to different things
in the two only where it leads to no directory: to a file or to nothing, or it is cut off by a file
on its way (`stat_alike`). So it leads to a directory in both or in neither, and it is too long for
both or for neither.
-/

set_option autoImplicit false

namespace Tabletop.FileTree

variable {places : List (List String)} {first second tree : FileTree}

/-- Two trees in which different files may stand at some places, and nothing else is different. -/
structure AlikeBut (places : List (List String)) (first second : FileTree) : Prop where
  workingDirectory : first.workingDirectory = second.workingDirectory
  elsewhere : ∀ place, place ∉ places → first.node? place = second.node? place
  noDirectory : ∀ place ∈ places,
    first.node? place ≠ some .directory ∧ second.node? place ≠ some .directory

/-- A path leads to a file or to nothing, or it is cut off by a file. -/
inductive NoDirectory : Except PathCause FileNode → Prop
  | file (bytes : List UInt8) : NoDirectory (.ok (.file bytes))
  | notFound : NoDirectory (.error .notFound)
  | notADirectory : NoDirectory (.error .notADirectory)

theorem NoDirectory.ne_nameTooLong {reached : Except PathCause FileNode}
    (h : NoDirectory reached) : reached ≠ .error .nameTooLong := by
  rintro rfl
  cases h

theorem noDirectory_follow {place : List String} (h : tree.node? place ≠ some .directory)
    (names : List String) : NoDirectory (tree.follow place names) := by
  cases names with
  | nil =>
    rw [follow]
    cases hnode : tree.node? place with
    | none => exact .notFound
    | some node =>
      cases node with
      | directory => exact absurd hnode h
      | file bytes => exact .file bytes
  | cons name names =>
    rw [follow]
    cases hnode : tree.node? place with
    | none => exact .notFound
    | some node =>
      cases node with
      | directory => exact absurd hnode h
      | file bytes => exact .notADirectory

/-- Names lead to the same from a place, or to no directory in either tree. -/
theorem follow_alike (h : AlikeBut places first second) (names place : List String) :
    first.follow place names = second.follow place names ∨
      (NoDirectory (first.follow place names) ∧ NoDirectory (second.follow place names)) := by
  -- at a place where the trees differ neither of them goes on, since no directory stands there
  induction names generalizing place with
  | nil =>
    by_cases hplace : place ∈ places
    · obtain ⟨hfirst, hsecond⟩ := h.noDirectory place hplace
      exact .inr ⟨noDirectory_follow hfirst [], noDirectory_follow hsecond []⟩
    · left
      rw [follow, follow, h.elsewhere place hplace]
  | cons name names ih =>
    by_cases hplace : place ∈ places
    · obtain ⟨hfirst, hsecond⟩ := h.noDirectory place hplace
      exact .inr ⟨noDirectory_follow hfirst _, noDirectory_follow hsecond _⟩
    · rw [follow, follow, h.elsewhere place hplace]
      cases second.node? place with
      | none => exact .inl rfl
      | some node =>
        cases node with
        | file bytes => exact .inl rfl
        | directory =>
          dsimp only
          by_cases hlong : maxNameLength < name.utf8ByteSize
          · rw [if_pos hlong, if_pos hlong]
            exact .inl rfl
          · rw [if_neg hlong, if_neg hlong]
            exact ih (Path.enter place name)

/-- Where a path starts in a tree. -/
def origin (tree : FileTree) (path : Path) : List String :=
  if path.start = .relative then tree.workingDirectory else []

/-- How a path is written may be refused, whatever the tree. If it is not, the path is followed. -/
theorem stat_cases (text : String) :
    (∃ cause, ∀ tree : FileTree, tree.stat text = .error cause) ∨
      ∀ tree : FileTree, tree.stat text =
        tree.follow (tree.origin (Path.ofText text)) (Path.ofText text).names := by
  by_cases hzero : Path.holdsZero text = true
  · exact .inl ⟨.holdsZero, fun tree => if_pos hzero⟩
  · by_cases hlong : maxPathLength < text.utf8ByteSize
    · exact .inl ⟨.nameTooLong, fun tree => (if_neg hzero).trans (if_pos hlong)⟩
    · by_cases hempty : text = ""
      · left
        refine ⟨.notFound, fun tree => ?_⟩
        rw [stat, if_neg hzero, if_neg hlong, if_pos hempty]
      · right
        intro tree
        rw [stat, if_neg hzero, if_neg hlong, if_neg hempty]
        rfl

/-- A path leads to the same in both trees, or to no directory in either. -/
theorem stat_alike (h : AlikeBut places first second) (text : String) :
    first.stat text = second.stat text ∨
      (NoDirectory (first.stat text) ∧ NoDirectory (second.stat text)) := by
  rcases stat_cases text with ⟨cause, hrefused⟩ | hfollowed
  · left
    rw [hrefused, hrefused]
  · have hstart : first.origin (Path.ofText text) = second.origin (Path.ofText text) := by
      rw [origin, origin, h.workingDirectory]
    rw [hfollowed, hfollowed, hstart]
    exact follow_alike h _ _

/-- A path under which nothing can be read counts as no file, if it is not too long. -/
theorem isFile_of_unread {path : Path}
    (hnone : ∀ bytes, tree.read path ≠ .ok bytes)
    (hlong : tree.stat path.text ≠ .error .nameTooLong) : tree.isFile path = .ok false := by
  unfold read at hnone
  unfold isFile
  cases hstat : tree.stat path.text with
  | ok node =>
    cases node with
    | directory => rfl
    | file bytes =>
      rw [hstat] at hnone
      exact absurd rfl (hnone bytes)
  | error cause =>
    cases cause with
    | nameTooLong => exact absurd hstat hlong
    | _ => rfl

/-- A path under which the same can be read is a file in both trees or in neither. -/
theorem isFile_alike (h : AlikeBut places first second) {path : Path}
    (hread : ∀ bytes, first.read path = .ok bytes ↔ second.read path = .ok bytes) :
    first.isFile path = second.isFile path := by
  rcases stat_alike h path.text with hsame | ⟨hfirst, hsecond⟩
  · unfold isFile
    rw [hsame]
  · by_cases hbytes : ∃ bytes, first.read path = .ok bytes
    · have hothers : ∃ bytes, second.read path = .ok bytes :=
        hbytes.imp fun bytes => (hread bytes).1
      rw [isFile_eq_true_iff.2 hbytes, isFile_eq_true_iff.2 hothers]
    · have hnone (bytes : List UInt8) : first.read path ≠ .ok bytes :=
        fun hfound => hbytes ⟨bytes, hfound⟩
      have hmissing (bytes : List UInt8) : second.read path ≠ .ok bytes :=
        fun hfound => hnone bytes ((hread bytes).2 hfound)
      rw [isFile_of_unread hnone hfirst.ne_nameTooLong,
        isFile_of_unread hmissing hsecond.ne_nameTooLong]

end Tabletop.FileTree
