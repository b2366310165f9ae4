import Mathlib.Data.String.Basic
import Tabletop.Files.Tree
import Tabletop.Proofs.Text.Blank

/-!
# Paths in order

A path that is written out and read again is the same path (`ofText_text_ofText`), and it is written
with no other characters than it was read from (`text_ofText_sublist`). So a word that leads to
something leads to the same when it is put in order as a path first (`stat_text_ofText`).
-/

set_option autoImplicit false

namespace Tabletop.Path

open Text (splitOn)

/-- A piece between slashes that is kept as a name. -/
def isName (piece : List Char) : Bool :=
  piece != [] && piece != ['.']

/-- The names in a text, as characters. -/
def pieces (cs : List Char) : List (List Char) :=
  (splitOn '/' cs).filter isName

theorem isName_iff (piece : List Char) :
    isName piece = (String.ofList piece != "" && String.ofList piece != ".") := by
  rw [Bool.eq_iff_iff]
  simp only [isName, Bool.and_eq_true, bne_iff_ne, ne_eq, ← String.toList_inj,
    String.toList_ofList]
  exact Iff.rfl

theorem toList_namesOf (text : String) :
    (namesOf text).map String.toList = pieces text.toList := by
  have hname : ((fun name => name != "" && name != ".") ∘ String.ofList) = isName :=
    funext fun piece => (isName_iff piece).symm
  have hchars : String.toList ∘ String.ofList = id := funext fun cs => String.toList_ofList
  unfold namesOf pieces
  rw [List.filter_map, List.map_map, hname, hchars, List.map_id]

theorem pieces_slash (cs : List Char) : pieces ('/' :: cs) = pieces cs := by
  unfold pieces
  rw [splitOn, if_pos rfl, List.filter_cons]
  rfl

theorem slash_not_mem_pieces {cs piece : List Char} (h : piece ∈ pieces cs) : '/' ∉ piece :=
  Text.not_mem_of_mem_splitOn (List.mem_filter.1 h).1

/-- The text of a path as characters. -/
theorem toList_text (path : Path) :
    path.text.toList =
      if path.start = .relative ∧ path.names = [] then ['.']
      else (startText path.start).toList ++ ['/'].intercalate (path.names.map String.toList) := by
  unfold text
  split
  · rfl
  · rw [String.toList_append, Text.join, String.toList_intercalate]
    rfl

/-! ## Written out and read again -/

/-- Names with a slash between them start as the first of them does. -/
theorem exists_head {names : List (List Char)} (hne : names ≠ [])
    (h : ∀ name ∈ names, isName name = true ∧ '/' ∉ name) :
    ∃ c cs, ['/'].intercalate names = c :: cs ∧ c ≠ '/' := by
  cases names with
  | nil => exact absurd rfl hne
  | cons first rest =>
    obtain ⟨hname, hslash⟩ := h first List.mem_cons_self
    cases first with
    | nil => cases hname
    | cons c cs =>
      have hc : c ≠ '/' := by
        rintro rfl
        exact hslash List.mem_cons_self
      cases rest with
      | nil => exact ⟨c, cs, List.intercalate_singleton, hc⟩
      | cons next rest =>
        rw [List.intercalate_cons_cons]
        exact ⟨c, _, rfl, hc⟩

theorem pieces_intercalate {names : List (List Char)}
    (h : ∀ name ∈ names, isName name = true ∧ '/' ∉ name) :
    pieces (['/'].intercalate names) = names := by
  cases names with
  | nil => rfl
  | cons first rest =>
    unfold pieces
    rw [Text.splitOn_intercalate (fun piece hpiece => (h piece hpiece).2) (List.cons_ne_nil _ _),
      List.filter_eq_self]
    exact fun piece hpiece => (h piece hpiece).1

theorem startOf_relative {c : Char} (h : c ≠ '/') (cs : List Char) :
    startOf (c :: cs) = .relative := by
  simp [startOf, h]

theorem startOf_root {c : Char} (h : c ≠ '/') (cs : List Char) :
    startOf ('/' :: c :: cs) = .root := by
  simp [startOf, h]

theorem startOf_doubleRoot {c : Char} (h : c ≠ '/') (cs : List Char) :
    startOf ('/' :: '/' :: c :: cs) = .doubleRoot := by
  simp [startOf, h]

/-- A path of names without slashes is read from its own text. -/
theorem ofText_text {path : Path}
    (h : ∀ name ∈ path.names, isName name.toList = true ∧ '/' ∉ name.toList) :
    ofText path.text = path := by
  obtain ⟨start, names⟩ := path
  by_cases hnil : names = []
  · subst hnil
    cases start <;> decide
  · have hnames : ∀ name ∈ names.map String.toList, isName name = true ∧ '/' ∉ name := by
      intro name hname
      obtain ⟨word, hword, rfl⟩ := List.mem_map.1 hname
      exact h word hword
    have hpieces := pieces_intercalate hnames
    obtain ⟨c, cs, hchars, hc⟩ := exists_head (mt List.map_eq_nil_iff.1 hnil) hnames
    have htext := toList_text ⟨start, names⟩
    rw [if_neg fun hboth => hnil hboth.2] at htext
    dsimp only at htext
    rw [hchars] at htext hpieces
    -- each start is written as its own number of slashes, and the first name begins with none
    have hread : startOf (text ⟨start, names⟩).toList = start ∧
        pieces (text ⟨start, names⟩).toList = names.map String.toList := by
      rw [htext]
      cases start with
      | relative => exact ⟨startOf_relative hc cs, hpieces⟩
      | root => exact ⟨startOf_root hc cs, (pieces_slash _).trans hpieces⟩
      | doubleRoot =>
        refine ⟨startOf_doubleRoot hc cs, ?_⟩
        exact (pieces_slash _).trans ((pieces_slash _).trans hpieces)
    have hnamesOf : namesOf (text ⟨start, names⟩) = names := by
      apply List.map_injective_iff.2 (fun _ _ => String.toList_inj.1)
      rw [toList_namesOf, hread.2]
    unfold ofText
    rw [hread.1, hnamesOf]

/-- A name without slashes is a path of its own, and is written as it is. -/
theorem ofText_name {name : String} (hname : isName name.toList = true)
    (hslash : '/' ∉ name.toList) :
    ofText name = ⟨.relative, [name]⟩ ∧ (ofText name).text = name := by
  have htext : text ⟨.relative, [name]⟩ = name := by
    rw [← String.toList_inj, toList_text, if_neg fun hboth => List.cons_ne_nil _ _ hboth.2]
    simp [startText]
  have hself : ofText (text ⟨.relative, [name]⟩) = ⟨.relative, [name]⟩ := by
    apply ofText_text
    intro other hother
    rw [List.mem_singleton.1 hother]
    exact ⟨hname, hslash⟩
  rw [htext] at hself
  rw [hself]
  exact ⟨rfl, htext⟩

/-- A text that was put in order as a path stays as it is when it is read once more. -/
theorem ofText_text_ofText (text : String) : ofText (ofText text).text = ofText text := by
  apply ofText_text
  intro name hname
  have hpiece : name.toList ∈ pieces text.toList := by
    rw [← toList_namesOf]
    exact List.mem_map_of_mem hname
  exact ⟨(List.mem_filter.1 hpiece).2, slash_not_mem_pieces hpiece⟩

/-! ## No character is added -/

theorem intercalate_sublist {sep : List Char} {kept all : List (List Char)}
    (h : kept.Sublist all) : (sep.intercalate kept).Sublist (sep.intercalate all) := by
  induction h with
  | slnil => exact List.Sublist.refl _
  | @cons kept all piece h ih =>
    -- the piece is left out, with the separator behind it if there is one
    cases all with
    | nil =>
      rw [List.eq_nil_of_sublist_nil h]
      exact List.nil_sublist _
    | cons next all =>
      rw [List.intercalate_cons_cons]
      exact ih.trans (List.sublist_append_right _ _)
  | @cons_cons kept all piece h ih =>
    cases all with
    | nil =>
      rw [List.eq_nil_of_sublist_nil h]
    | cons next all =>
      rw [List.intercalate_cons_cons]
      cases kept with
      | nil =>
        rw [List.intercalate_singleton, List.append_assoc]
        exact List.sublist_append_left _ _
      | cons other kept =>
        rw [List.intercalate_cons_cons]
        exact ih.append_left _

theorem intercalate_pieces_sublist (cs : List Char) :
    (['/'].intercalate (pieces cs)).Sublist cs := by
  have h : (['/'].intercalate (pieces cs)).Sublist (['/'].intercalate (splitOn '/' cs)) :=
    intercalate_sublist List.filter_sublist
  rwa [Text.intercalate_splitOn] at h

theorem exists_of_startOf_root {cs : List Char} (h : startOf cs = .root) :
    ∃ rest, cs = '/' :: rest := by
  unfold startOf at h
  split at h
  · exact ⟨_, rfl⟩
  · cases h
  · exact ⟨_, rfl⟩
  · cases h

theorem exists_of_startOf_doubleRoot {cs : List Char} (h : startOf cs = .doubleRoot) :
    ∃ rest, cs = '/' :: '/' :: rest := by
  unfold startOf at h
  split at h
  · cases h
  · exact ⟨_, rfl⟩
  · cases h
  · cases h

/-- A relative path of no names is written with dots, if it is written at all. -/
theorem dot_of_no_pieces {cs : List Char} (hne : cs ≠ []) (hstart : startOf cs = .relative)
    (hpieces : pieces cs = []) : '.' ∈ cs := by
  cases cs with
  | nil => exact absurd rfl hne
  | cons c cs =>
    have hc : c ≠ '/' := by
      rintro rfl
      unfold startOf at hstart
      split at hstart <;> simp_all
    obtain ⟨piece, rest, hsplit⟩ := List.exists_cons_of_ne_nil (Text.splitOn_ne_nil '/' cs)
    unfold pieces at hpieces
    rw [splitOn, if_neg hc, hsplit] at hpieces
    have hfirst := List.filter_eq_nil_iff.1 hpieces (c :: piece) List.mem_cons_self
    have hdot : c = '.' ∧ piece = [] := by simpa [isName] using hfirst
    rw [hdot.1]
    exact List.mem_cons_self

/-- A text that is put in order as a path keeps some of its characters and gets no others. -/
theorem text_ofText_sublist {text : String} (h : text ≠ "") :
    (ofText text).text.toList.Sublist text.toList := by
  have hpieces := intercalate_pieces_sublist text.toList
  rw [toList_text]
  show (if startOf text.toList = .relative ∧ namesOf text = [] then ['.'] else
    (startText (startOf text.toList)).toList ++
      ['/'].intercalate ((namesOf text).map String.toList)).Sublist text.toList
  rw [toList_namesOf]
  split
  · rename_i hnone
    -- only the path of nothing at all is written with a character of its own, a dot
    rw [List.singleton_sublist]
    apply dot_of_no_pieces (mt String.toList_eq_nil_iff.1 h) hnone.1
    rw [← toList_namesOf, hnone.2]
    rfl
  · cases hstart : startOf text.toList with
    | relative => exact hpieces
    | root =>
      obtain ⟨rest, hrest⟩ := exists_of_startOf_root hstart
      rw [hrest, pieces_slash]
      exact (intercalate_pieces_sublist rest).cons_cons '/'
    | doubleRoot =>
      obtain ⟨rest, hrest⟩ := exists_of_startOf_doubleRoot hstart
      rw [hrest, pieces_slash, pieces_slash]
      exact ((intercalate_pieces_sublist rest).cons_cons '/').cons_cons '/'

theorem text_ofText_ne (text : String) : (ofText text).text ≠ "" := by
  intro hempty
  -- the text of nothing is read as the path that is written as a dot
  have hself := ofText_text_ofText text
  rw [hempty] at hself
  rw [← hself] at hempty
  exact absurd hempty (by decide)

theorem utf8ByteSize_le_of_sublist {kept all : String} (h : kept.toList.Sublist all.toList) :
    kept.utf8ByteSize ≤ all.utf8ByteSize := by
  have hsize := String.utf8Len_le_of_sublist h
  rwa [← String.utf8ByteSize_ofList, ← String.utf8ByteSize_ofList, String.ofList_toList,
    String.ofList_toList] at hsize

theorem utf8ByteSize_text_ofText_le {text : String} (h : text ≠ "") :
    (ofText text).text.utf8ByteSize ≤ text.utf8ByteSize :=
  utf8ByteSize_le_of_sublist (text_ofText_sublist h)

/-- A word that leads to something leads there too when it is put in order as a path first. -/
theorem stat_text_ofText {tree : FileTree} {word : String} {node : FileNode}
    (h : tree.stat word = .ok node) : tree.stat (ofText word).text = .ok node := by
  unfold FileTree.stat at h ⊢
  dsimp only at h ⊢
  split at h
  · cases h
  · split at h
    · cases h
    · split at h
      · cases h
      · rename_i hzero hlength hempty
        have hzero' : ¬ holdsZero (ofText word).text = true := by
          intro hholds
          apply hzero
          rw [holdsZero, List.contains_iff_mem] at hholds ⊢
          exact (text_ofText_sublist hempty).subset hholds
        have hlength' : ¬ FileTree.maxPathLength < (ofText word).text.utf8ByteSize := by
          have hle := utf8ByteSize_text_ofText_le hempty
          omega
        rw [if_neg hzero', if_neg hlength', if_neg (text_ofText_ne word), ofText_text_ofText]
        exact h

end Tabletop.Path
