import Tabletop.Proofs.Display.Cells

/-!
# Tables read back

A table is read from its text alone. A line with four bars in it, one of them at each end, belongs
to a row and holds a piece of each of its cells; a line without a number goes on with the row above
it (`rowsIn`). Read in this way a table has its rows, with what their cells show
(`readRows_tableLines`), and what stands above and below it is no part of any row
(`readRows_append`).
-/

set_option autoImplicit false

namespace Tabletop.Display

open Text (AllAre dots withoutSpaces)

/-- The cells of a row as they read: the pieces of each cell put together, without spaces. -/
structure Reading where
  number : List Char
  first : List Char
  second : List Char
  deriving DecidableEq, Repr

/-- What stands on a line between bars, if it is a line of a row. -/
def cells? (line : List Char) : Option Reading :=
  match Text.splitOn '│' line with
  | [[], number, first, second, []] =>
    some ⟨withoutSpaces number, withoutSpaces first, withoutSpaces second⟩
  | _ => none

/-- One more line above what has been read. If no number has been read yet for the row below, it is
a row of this line. -/
def addLine (line : Reading) (below : List Reading) : List Reading :=
  match below with
  | [] => [line]
  | row :: rest =>
    if row.number = [] then
      ⟨line.number, line.first ++ row.first, line.second ++ row.second⟩ :: rest
    else line :: row :: rest

/-- The rows that stand on some lines. -/
def readRows (lines : List (List Char)) : List Reading :=
  (lines.filterMap cells?).foldr addLine []

/-- The rows of the tables in a text. -/
def rowsIn (text : String) : List Reading :=
  readRows (Text.splitOn '\n' text.toList)

/-! ## Lines -/

/-- A character that neither rules a table nor ends a line. -/
def IsInner (c : Char) : Prop :=
  c ≠ '│' ∧ c ≠ '\n'

instance (c : Char) : Decidable (IsInner c) :=
  inferInstanceAs (Decidable (c ≠ '│' ∧ c ≠ '\n'))

theorem splitOn_append_cons {sep : Char} {line : List Char} (h : sep ∉ line) (rest : List Char) :
    Text.splitOn sep (line ++ sep :: rest) = line :: Text.splitOn sep rest := by
  induction line with
  | nil => rw [List.nil_append, Text.splitOn, if_pos rfl]
  | cons c line ih =>
    rw [List.mem_cons, not_or] at h
    rw [List.cons_append, Text.splitOn, if_neg (Ne.symm h.1), ih h.2]

theorem cells?_of_not_mem {line : List Char} (h : '│' ∉ line) : cells? line = none := by
  rw [cells?, Text.splitOn_of_not_mem h]
  split
  · next hpieces => cases hpieces
  · rfl

/-- The lines of a row are found. -/
theorem cells?_line {number first second : List Char} (hnumber : '│' ∉ number)
    (hfirst : '│' ∉ first) (hsecond : '│' ∉ second) :
    cells? ((Border.mk '│' '│' '│').line number first second) =
      some ⟨withoutSpaces number, withoutSpaces first, withoutSpaces second⟩ := by
  have hsplit : Text.splitOn '│' ((Border.mk '│' '│' '│').line number first second) =
      [[], number, first, second, []] := by
    simp only [Border.line, List.cons_append, List.append_assoc]
    rw [Text.splitOn, if_pos rfl, splitOn_append_cons hnumber, splitOn_append_cons hfirst,
      splitOn_append_cons hsecond]
    rfl
  rw [cells?, hsplit]

/-! ## Rows -/

/-- The first of some rows has a number. -/
def Headed (rows : List Reading) : Prop :=
  ∀ row ∈ rows.head?, row.number ≠ []

theorem addLine_of_headed {rows : List Reading} (h : Headed rows) (line : Reading) :
    addLine line rows = line :: rows := by
  cases rows with
  | nil => rfl
  | cons row rest => rw [addLine, if_neg (h row rfl)]

/-- Lines without a number, above rows with one, are one row that waits for its number. -/
theorem foldr_addLine_unnumbered {rows : List Reading} (h : Headed rows) {lines : List Reading}
    (hlines : ∀ line ∈ lines, line.number = []) (hne : lines ≠ []) :
    lines.foldr addLine rows =
      ⟨[], (lines.map Reading.first).flatten, (lines.map Reading.second).flatten⟩ :: rows := by
  induction lines with
  | nil => exact absurd rfl hne
  | cons line lines ih =>
    obtain ⟨hline, hrest⟩ := List.forall_mem_cons.1 hlines
    cases lines with
    | nil =>
      rw [List.foldr_cons, List.foldr_nil, addLine_of_headed h]
      simp only [List.map_singleton, List.flatten_singleton, ← hline]
    | cons next lines =>
      rw [List.foldr_cons, ih hrest (List.cons_ne_nil _ _), addLine, if_pos rfl, hline]
      rfl

/-- A line and the lines without a number after it are one row. -/
theorem foldr_addLine_row {rows : List Reading} (h : Headed rows) (line : Reading)
    {lines : List Reading} (hlines : ∀ line ∈ lines, line.number = []) :
    (line :: lines).foldr addLine rows =
      ⟨line.number, ((line :: lines).map Reading.first).flatten,
        ((line :: lines).map Reading.second).flatten⟩ :: rows := by
  cases lines with
  | nil =>
    rw [List.foldr_cons, List.foldr_nil, addLine_of_headed h]
    simp
  | cons next lines =>
    rw [List.foldr_cons, foldr_addLine_unnumbered h hlines (List.cons_ne_nil _ _), addLine,
      if_pos rfl]
    rfl

/-- A piece of a cell, or blanks where it has no more of them. -/
def piece (lines : List (List Char)) (width i : Nat) : List Char :=
  lines[i]?.getD (List.replicate width ' ')

/-- The pieces of a cell put together. -/
theorem flatten_pieces (lines : List (List Char)) (width : Nat) {height : Nat}
    (h : lines.length ≤ height) :
    ((List.range height).map fun i => withoutSpaces (piece lines width i)).flatten =
      withoutSpaces lines.flatten := by
  induction lines generalizing height with
  | nil =>
    rw [List.flatten_eq_nil_iff.2]
    · rfl
    · intro shown hshown
      obtain ⟨i, -, rfl⟩ := List.mem_map.1 hshown
      exact Text.withoutSpaces_replicate width
  | cons line lines ih =>
    obtain ⟨height, rfl⟩ : ∃ n, height = n + 1 := ⟨height - 1, by simp at h; omega⟩
    have hrest := ih (Nat.le_of_succ_le_succ h)
    rw [List.range_succ_eq_map, List.map_cons, List.map_map, List.flatten_cons, List.flatten_cons,
      Text.withoutSpaces_append, ← hrest]
    rfl

/-! ## Tables -/

/-- What a row shows in columns of some widths. -/
def Row.shown [Text.EmojiTable] (widths : Widths) (row : Row) : Reading where
  number := numberFormat.shown widths.number row.number
  first := firstFormat.shown widths.first row.first
  second := secondFormat.shown widths.second row.second

/-- A row whose number stands on one line and is there to be read, and which holds no bars. -/
structure Row.Legible [Text.EmojiTable] (widths : Widths) (row : Row) : Prop where
  number : ∃ line, numberFormat.lines widths.number row.number = [line] ∧ withoutSpaces line ≠ []
  numberInner : ∀ c ∈ row.number.toList, IsInner c
  firstInner : ∀ c ∈ row.first.toList, IsInner c
  secondInner : ∀ c ∈ row.second.toList, IsInner c

/-- What emoji are made of neither rules a table nor ends a line. -/
theorem isInner_of_isPictureChar {c : Char} (h : Text.IsPictureChar c) :
    IsInner c := by
  refine ⟨h.ne_bar, ?_⟩
  rintro rfl
  exact absurd h.above (by decide)

/-- The lines of a cell are inside of a table. -/
theorem allAre_isInner [table : Text.EmojiTable] (htable : table.IsPictorial)
    {format : CellFormat} {width : Nat} {cell : String} (h : ∀ c ∈ cell.toList, IsInner c) :
    AllAre IsInner (format.lines width cell) :=
  allAre_lines (by decide) (by decide) fun c hc _ =>
    forall_mem_plain htable (fun _ => isInner_of_isPictureChar) h c hc

theorem forall_mem_piece {P : Char → Prop} (hspace : P ' ') {lines : List (List Char)}
    (h : AllAre P lines) (width i : Nat) : ∀ c ∈ piece lines width i, P c := by
  intro c hc
  unfold piece at hc
  cases hpiece : lines[i]? with
  | none =>
    rw [hpiece] at hc
    exact List.eq_of_mem_replicate hc ▸ hspace
  | some line =>
    rw [hpiece] at hc
    exact h line (List.mem_of_getElem? hpiece) c hc

theorem bar_not_mem_piece {lines : List (List Char)} (h : AllAre IsInner lines) (width i : Nat) :
    '│' ∉ piece lines width i :=
  fun hbar => (forall_mem_piece (by decide) h width i '│' hbar).1 rfl

/-- What the lines of a row show, one after the other. -/
theorem filterMap_rowLines [table : Text.EmojiTable] (htable : table.IsPictorial)
    {widths : Widths} {row : Row} (hrow : row.Legible widths) :
    ∃ height,
      (firstFormat.lines widths.first row.first).length ≤ height + 1 ∧
      (secondFormat.lines widths.second row.second).length ≤ height + 1 ∧
      ((Border.mk '│' '│' '│').rowLines widths row).filterMap cells? =
        (List.range (height + 1)).map fun i => ⟨
          withoutSpaces (piece (numberFormat.lines widths.number row.number) widths.number i),
          withoutSpaces (piece (firstFormat.lines widths.first row.first) widths.first i),
          withoutSpaces (piece (secondFormat.lines widths.second row.second) widths.second i)⟩ := by
  have hnumber : AllAre IsInner (numberFormat.lines widths.number row.number) :=
    allAre_isInner htable hrow.numberInner
  have hfirst : AllAre IsInner (firstFormat.lines widths.first row.first) :=
    allAre_isInner htable hrow.firstInner
  have hsecond : AllAre IsInner (secondFormat.lines widths.second row.second) :=
    allAre_isInner htable hrow.secondInner
  refine ⟨max 1 (max (numberFormat.lines widths.number row.number).length
    (max (firstFormat.lines widths.first row.first).length
      (secondFormat.lines widths.second row.second).length)) - 1, by omega, by omega, ?_⟩
  rw [Nat.sub_add_cancel (Nat.le_max_left _ _), Border.rowLines, List.filterMap_map,
    ← List.filterMap_eq_map]
  congr 1
  funext i
  exact cells?_line (bar_not_mem_piece hnumber _ i) (bar_not_mem_piece hfirst _ i)
    (bar_not_mem_piece hsecond _ i)

/-- The lines of a row read as the row, above rows that have their numbers. -/
theorem foldr_rowLines [table : Text.EmojiTable] (htable : table.IsPictorial)
    {widths : Widths} {row : Row} (hrow : row.Legible widths)
    {rows : List Reading} (hrows : Headed rows) :
    (((Border.mk '│' '│' '│').rowLines widths row).filterMap cells?).foldr addLine rows =
      row.shown widths :: rows := by
  obtain ⟨line, hline, -⟩ := hrow.number
  obtain ⟨height, hfirst, hsecond, hlines⟩ := filterMap_rowLines htable hrow
  rw [hline] at hlines
  -- the number stands on the first line alone
  have hrest : ∀ reading ∈ (List.range height).map (fun i => Reading.mk
      (withoutSpaces (piece [line] widths.number (i + 1)))
      (withoutSpaces (piece (firstFormat.lines widths.first row.first) widths.first (i + 1)))
      (withoutSpaces (piece (secondFormat.lines widths.second row.second) widths.second (i + 1)))),
      reading.number = [] := by
    intro reading hreading
    obtain ⟨i, -, rfl⟩ := List.mem_map.1 hreading
    exact Text.withoutSpaces_replicate widths.number
  have hjoined := foldr_addLine_row hrows ⟨withoutSpaces (piece [line] widths.number 0),
    withoutSpaces (piece (firstFormat.lines widths.first row.first) widths.first 0),
    withoutSpaces (piece (secondFormat.lines widths.second row.second) widths.second 0)⟩ hrest
  rw [hlines, List.range_succ_eq_map, List.map_cons, List.map_map]
  refine hjoined.trans (congrArg (· :: rows) ?_)
  have hfirst := flatten_pieces _ widths.first hfirst
  have hsecond := flatten_pieces _ widths.second hsecond
  rw [List.range_succ_eq_map, List.map_cons, List.map_map] at hfirst hsecond
  simp only [List.map_cons, List.map_map, Row.shown, CellFormat.shown, hline, ← hfirst, ← hsecond,
    List.flatten_singleton]
  rfl

theorem headed_shown [Text.EmojiTable] {widths : Widths} {row : Row} (hrow : row.Legible widths)
    (rows : List Reading) : Headed (row.shown widths :: rows) := by
  rintro _ ⟨⟩
  obtain ⟨line, hline, hread⟩ := hrow.number
  change withoutSpaces (numberFormat.lines widths.number row.number).flatten ≠ []
  rw [hline, List.flatten_singleton]
  exact hread

/-- The lines of some rows read as those rows. -/
theorem foldr_flatMap_rowLines [table : Text.EmojiTable] (htable : table.IsPictorial)
    {widths : Widths} {rows : List Row}
    (h : ∀ row ∈ rows, row.Legible widths) :
    ((rows.flatMap ((Border.mk '│' '│' '│').rowLines widths)).filterMap cells?).foldr addLine [] =
        rows.map (Row.shown widths) ∧
      Headed (rows.map (Row.shown widths)) := by
  induction rows with
  | nil => exact ⟨rfl, fun row hrow => nomatch hrow⟩
  | cons row rows ih =>
    obtain ⟨hrow, hrest⟩ := List.forall_mem_cons.1 h
    obtain ⟨hrows, hheaded⟩ := ih hrest
    rw [List.flatMap_cons, List.filterMap_append, List.foldr_append, hrows, List.map_cons,
      foldr_rowLines htable hrow hheaded]
    exact ⟨rfl, headed_shown hrow _⟩

/-- Nothing is read of lines without bars. -/
theorem filterMap_cells?_eq_nil {lines : List (List Char)} (h : AllAre (· ≠ '│') lines) :
    lines.filterMap cells? = [] := by
  rw [List.filterMap_eq_nil_iff]
  intro line hline
  exact cells?_of_not_mem fun hbar => h line hline '│' hbar rfl

/-- What stands above and below some lines is not read if it has no bars. -/
theorem readRows_append {above below : List (List Char)} (habove : AllAre (· ≠ '│') above)
    (hbelow : AllAre (· ≠ '│') below) (lines : List (List Char)) :
    readRows (above ++ lines ++ below) = readRows lines := by
  rw [readRows, List.filterMap_append, List.filterMap_append, filterMap_cells?_eq_nil habove,
    filterMap_cells?_eq_nil hbelow, List.nil_append, List.append_nil, readRows]

section

variable {P : Char → Prop} {border : Border}
  (hborder : P border.start ∧ P border.between ∧ P border.stop)
include hborder

theorem forall_mem_line {number first second : List Char} (hnumber : ∀ c ∈ number, P c)
    (hfirst : ∀ c ∈ first, P c) (hsecond : ∀ c ∈ second, P c) :
    ∀ c ∈ border.line number first second, P c := by
  obtain ⟨hstart, hbetween, hstop⟩ := hborder
  simp only [Border.line, List.cons_append, List.append_assoc, List.forall_mem_cons,
    List.forall_mem_append]
  exact ⟨hstart, hnumber, hbetween, hfirst, hbetween, hsecond, hstop, fun c hc => nomatch hc⟩

theorem forall_mem_rule {stroke : Char} (hstroke : P stroke) (widths : Widths) :
    ∀ c ∈ border.rule stroke widths, P c := by
  have hstrokes : ∀ n, ∀ c ∈ List.replicate n stroke, P c := fun n c hc =>
    List.eq_of_mem_replicate hc ▸ hstroke
  exact forall_mem_line hborder (hstrokes _) (hstrokes _) (hstrokes _)

/-- The lines of a row hold the border and what the cells hold. -/
theorem allAre_rowLines [Text.EmojiTable] (hspace : P ' ') {widths : Widths} {row : Row}
    (hnumber : AllAre P (numberFormat.lines widths.number row.number))
    (hfirst : AllAre P (firstFormat.lines widths.first row.first))
    (hsecond : AllAre P (secondFormat.lines widths.second row.second)) :
    AllAre P (border.rowLines widths row) := by
  intro line hline
  obtain ⟨i, -, rfl⟩ := List.mem_map.1 hline
  exact forall_mem_line hborder (forall_mem_piece hspace hnumber _ i)
    (forall_mem_piece hspace hfirst _ i) (forall_mem_piece hspace hsecond _ i)

end

/-- The titles hold no bars and no line feeds, however wide the columns are. -/
theorem allAre_titles [table : Text.EmojiTable] (htable : table.IsPictorial)
    (widths : Widths) :
    AllAre IsInner ((Border.mk '┃' '┃' '┃').rowLines widths titles) :=
  allAre_rowLines (by decide) (by decide)
    (allAre_isInner htable (Text.forall_mem_of_all (by decide)))
    (allAre_isInner htable (Text.forall_mem_of_all (by decide)))
    (allAre_isInner htable (Text.forall_mem_of_all (by decide)))

/-- A table reads as its rows. -/
theorem readRows_tableLines [table : Text.EmojiTable] (htable : table.IsPictorial)
    {limit : Nat} {rows : List Row}
    (h : ∀ row ∈ rows, row.Legible (columnWidths limit (titles :: rows))) :
    readRows (tableLines limit rows) =
      rows.map (Row.shown (columnWidths limit (titles :: rows))) := by
  unfold tableLines
  dsimp only
  generalize columnWidths limit (titles :: rows) = widths at h ⊢
  -- the rules and the titles have bars of other kinds
  rw [readRows_append]
  · exact (foldr_flatMap_rowLines htable h).1
  · have hrule : ∀ {border : Border},
        (border.start ≠ '│' ∧ border.between ≠ '│' ∧ border.stop ≠ '│') →
          AllAre (· ≠ '│') [border.rule '━' widths] :=
      fun hborder => List.forall_mem_singleton.2 (forall_mem_rule hborder (by decide) widths)
    refine List.forall_mem_append.2 ⟨List.forall_mem_append.2 ⟨hrule (by decide), ?_⟩,
      hrule (by decide)⟩
    intro line hline c hc
    exact (allAre_titles htable widths line hline c hc).1
  · exact List.forall_mem_singleton.2 (forall_mem_rule (by decide) (by decide) widths)

/-- No line of a table holds a line feed. -/
theorem allAre_tableLines [table : Text.EmojiTable] (htable : table.IsPictorial)
    {limit : Nat} {rows : List Row}
    (h : ∀ row ∈ rows, row.Legible (columnWidths limit (titles :: rows))) :
    AllAre (· ≠ '\n') (tableLines limit rows) := by
  unfold tableLines
  dsimp only
  generalize columnWidths limit (titles :: rows) = widths at h ⊢
  have hinner : ∀ {lines : List (List Char)}, AllAre IsInner lines → AllAre (· ≠ '\n') lines :=
    fun hlines line hline c hc => (hlines line hline c hc).2
  have hrule : ∀ {border : Border} {stroke : Char},
      (border.start ≠ '\n' ∧ border.between ≠ '\n' ∧ border.stop ≠ '\n') → stroke ≠ '\n' →
        AllAre (· ≠ '\n') [border.rule stroke widths] :=
    fun hborder hstroke => List.forall_mem_singleton.2
      (forall_mem_rule (P := (· ≠ '\n')) hborder hstroke widths)
  have hrows : AllAre (· ≠ '\n') (rows.flatMap ((Border.mk '│' '│' '│').rowLines widths)) := by
    intro line hline
    obtain ⟨row, hrow, hline⟩ := List.mem_flatMap.1 hline
    obtain ⟨-, hnumber, hfirst, hsecond⟩ := h row hrow
    exact allAre_rowLines (by decide) (by decide) (hinner (allAre_isInner htable hnumber))
      (hinner (allAre_isInner htable hfirst)) (hinner (allAre_isInner htable hsecond)) line hline
  refine List.forall_mem_append.2 ⟨List.forall_mem_append.2 ⟨List.forall_mem_append.2
    ⟨List.forall_mem_append.2 ⟨hrule (by decide) (by decide), ?_⟩, ?_⟩, hrows⟩,
      hrule (by decide) (by decide)⟩
  · exact hinner (allAre_titles htable widths)
  · exact hrule (by decide) (by decide)

/-! ## Texts of lines -/

theorem splitOn_flatMap_lines {lines : List (List Char)} (h : AllAre (· ≠ '\n') lines) :
    Text.splitOn '\n' (lines.flatMap fun line => line ++ ['\n']) = lines ++ [[]] := by
  induction lines with
  | nil => rfl
  | cons line lines ih =>
    obtain ⟨hline, hrest⟩ := List.forall_mem_cons.1 h
    rw [List.flatMap_cons, List.append_assoc, List.singleton_append,
      splitOn_append_cons fun hfeed => hline '\n' hfeed rfl, ih hrest, List.cons_append]

theorem splitOn_concat (sep : Char) (cs : List Char) :
    Text.splitOn sep (cs ++ [sep]) = Text.splitOn sep cs ++ [[]] := by
  induction cs with
  | nil => simp [Text.splitOn]
  | cons c cs ih =>
    obtain ⟨piece, pieces, hpieces⟩ := List.exists_cons_of_ne_nil (Text.splitOn_ne_nil sep cs)
    rw [List.cons_append, Text.splitOn, Text.splitOn, ih, hpieces]
    split <;> rfl

theorem readRows_concat_nil (lines : List (List Char)) :
    readRows (lines ++ [[]]) = readRows lines := by
  rw [readRows, List.filterMap_append]
  exact congrArg (List.foldr addLine []) (List.append_nil _)

/-- Line feeds at the end of a text make no rows. -/
theorem readRows_splitOn_feeds (cs : List Char) (n : Nat) :
    readRows (Text.splitOn '\n' (cs ++ List.replicate n '\n')) =
      readRows (Text.splitOn '\n' cs) := by
  induction n with
  | zero => rw [List.replicate_zero, List.append_nil]
  | succ n ih =>
    rw [List.replicate_succ', ← List.append_assoc, splitOn_concat, readRows_concat_nil, ih]

/-- Lines read as they do in the text that they make. -/
theorem rowsIn_textOf {lines : List (List Char)} (h : AllAre (· ≠ '\n') lines) :
    rowsIn (textOf lines) = readRows lines := by
  have hsplit := splitOn_flatMap_lines h
  rw [rowsIn, textOf, String.toList_ofList, ← readRows_concat_nil lines, ← hsplit]
  generalize lines.flatMap (fun line => line ++ ['\n']) = text
  -- the line feeds that are dropped make no rows
  have hfeeds : text.rtakeWhile (· = '\n') =
      List.replicate (text.rtakeWhile (· = '\n')).length '\n' :=
    List.eq_replicate_of_mem fun c hc => by simpa using List.mem_rtakeWhile_imp hc
  have htext : Text.dropEndWhile (· = '\n') text ++ text.rtakeWhile (· = '\n') = text :=
    List.rdropWhile_append_rtakeWhile
  conv_rhs => rw [← htext, hfeeds]
  exact (readRows_splitOn_feeds _ _).symm

end Tabletop.Display
