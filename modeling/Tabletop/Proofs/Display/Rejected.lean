import Mathlib.Algebra.Group.Nat.Defs
import Tabletop.Proofs.Check.Findings
import Tabletop.Proofs.Command.Position
import Tabletop.Proofs.Command.Reasons
import Tabletop.Proofs.Display.Rows
import Tabletop.Proofs.Display.Showable

/-!
# Rejected lines as they are shown

A failed check shows its malformed lines in a table, a row for each. Where the lines are printable
the rows can be read back from the text that is shown (`Check.rowsIn_text`). A cell reads as it was
written unless a code for an emoji stands in it, which is replaced, or a piece of it is wider than
its column, which is cut (`rejected_lines_shown`). No other character means anything there; what
stands between two colons is no code if there is a blank in it, and pieces of up to 40 characters
are never cut. Which texts are codes is the matter of the table of emoji, and the result is one
about every table of pictures.
-/

set_option autoImplicit false

namespace Tabletop

open Display (IsDigits Reading Row columnWidths resultWidth rowsIn tableLines titles)
open Text (AllAre Printable withoutSpaces)

/-! ## Noted lines -/

/-- A noted line is not empty and starts with no blank, and its reason is of its text. -/
theorem reads_of_mem_notedAll {mode : Mode} {lines : List String} {entry : Diagnostic}
    (h : entry ∈ notedAll mode lines) :
    entry.line.toList ≠ [] ∧ (∀ c ∈ entry.line.toList.head?, Text.isBlank c = false) ∧
      Reads entry.reason.text.toList := by
  obtain ⟨⟨line, place⟩, -, hnoted⟩ := List.mem_filterMap.1 h
  cases hblank : isBlankLine line with
  | true =>
    rw [noted?_of_isBlankLine hblank] at hnoted
    cases hnoted
  | false =>
    cases hparse : parse mode line with
    | ok command =>
      rw [noted?_of_command hparse] at hnoted
      cases hnoted
    | error malformed =>
      rw [noted?_of_malformed hblank hparse] at hnoted
      cases hnoted
      obtain ⟨hreason, hline⟩ := parse_eq_error_iff.1 hparse
      simp only [Malformed.at, hline, String.toList_ofList]
      exact ⟨List.isEmpty_eq_false_iff.1 hblank, (Text.trimmed_trim line.toList).head,
        Grammar.reads_of_command hreason⟩

theorem toList_toString (n : Nat) : (toString n).toList = Nat.toDigits 10 n := by
  show n.repr.toList = _
  rw [Nat.repr_eq_ofList_toDigits, String.toList_ofList]

theorem isDigits_toString (n : Nat) : IsDigits (toString n).toList where
  ne_nil := by
    rw [toList_toString]
    exact List.ne_nil_of_length_pos Nat.length_toDigits_pos
  bounds c hc := by
    rw [toList_toString] at hc
    exact Grammar.digit_of_mem_toDigits hc

/-- How many digits a number has. -/
theorem length_toString_le_iff {n digits : Nat} (h : 0 < digits) :
    (toString n).toList.length ≤ digits ↔ n < 10 ^ digits := by
  rw [toList_toString]
  exact Nat.length_toDigits_le_iff (by decide) h

theorem isInner_of_printable {cs : List Char} (h : Printable cs) : ∀ c ∈ cs, Display.IsInner c := by
  intro c hc
  have hbounds := h c hc
  constructor
  · rintro rfl
    exact absurd hbounds (by decide)
  · rintro rfl
    exact absurd hbounds (by decide)

/-! ## The text of a failed check -/

namespace Check

/-- The lines that a failed check is shown in. -/
def headline (tally : Tally) : List (List Char) :=
  Display.exactLines resultWidth
    ("ERROR  " ++ op ++ (": " ++ (toString tally.malformed.length ++ " malformed line(s)")))

/-- The lines below the table. -/
def contextLines (mode : Mode) : List (List Char) :=
  [] :: Display.titled "meta" [("lenient", .bool mode.isLenient)]

theorem text_result_of_malformed [Text.EmojiTable] (mode : Mode) {tally : Tally}
    (h : tally.malformed ≠ []) (verbose : Bool) :
    (result mode tally).text { isVerbose := verbose } =
      .ok (Display.textOf
        (headline tally ++ tableLines resultWidth (tally.malformed.map Diagnostic.row) ++
          if verbose then contextLines mode else [])) := by
  have hsome : tally.malformed.isEmpty = false := List.isEmpty_eq_false_iff.2 h
  have hmessage : toString tally.malformed.length ++ " malformed line(s)" ≠ "" := by
    intro hnone
    have hlast := congrArg (fun words => words.toList.getLast?) hnone
    simp at hlast
  have hrejected := rejectedLines_malformedValue tally
  rw [if_neg h] at hrejected
  simp only [Result.text, Bool.false_eq_true, if_false, Result.longText, result, hsome,
    Result.failure, Result.failureLines, Result.errorMessage, Option.map_some, Option.getD_some,
    hmessage, hrejected]
  rfl

theorem allAre_exactLines {text : String} (h : ∀ c ∈ text.toList, Display.IsInner c)
    (width : Nat) : AllAre Display.IsInner (Display.exactLines width text) :=
  Text.allAre_wrap (by decide) (by decide) width .fold fun c hc _ => h c (List.mem_filter.1 hc).1

theorem allAre_headline (tally : Tally) : AllAre Display.IsInner (headline tally) := by
  have hnumber : ∀ c ∈ (toString tally.malformed.length).toList, Display.IsInner c :=
    isInner_of_printable (isDigits_toString tally.malformed.length).printable
  apply allAre_exactLines
  simp only [String.toList_append, List.forall_mem_append]
  exact ⟨⟨Text.forall_mem_of_all (by decide), Text.forall_mem_of_all (by decide)⟩,
    Text.forall_mem_of_all (by decide), hnumber, Text.forall_mem_of_all (by decide)⟩

theorem allAre_contextLines (mode : Mode) : AllAre Display.IsInner (contextLines mode) := by
  refine List.forall_mem_cons.2 ⟨by simp, List.forall_mem_append.2 ⟨?_, ?_⟩⟩
  · exact allAre_exactLines (Text.forall_mem_of_all (by decide)) resultWidth
  · rw [Display.fieldLines, List.flatMap_singleton]
    apply allAre_exactLines
    apply Text.forall_mem_of_all
    cases mode <;> decide

end Check

/-! ## What is read of the rows -/

namespace Display

/-- A text that a column of some width shows as it was written. -/
def Kept [Text.EmojiTable] (width : Nat) (text : List Char) : Prop :=
  Text.replaceEmoji text = text ∧ ∀ piece ∈ Text.splitOn ' ' text, piece.length ≤ width

/-- What is read of an entry, and what of it reads as it was written. -/
structure ReadsAs [Text.EmojiTable] (widths : Widths) (entry : Diagnostic) (reading : Reading) :
    Prop where
  number : reading.number = (toString entry.lineNumber).toList ↔ entry.lineNumber < 10 ^ 95
  first : reading.first = withoutSpaces entry.line.toList ↔
    Kept (widths.first - firstFormat.padding) entry.line.toList
  second : reading.second = withoutSpaces entry.reason.text.toList ↔
    Kept (widths.second - secondFormat.padding) entry.reason.text.toList

/-- An entry of printable text, which starts with no blank. -/
structure Presentable (entry : Diagnostic) : Prop where
  printable : Printable entry.line.toList
  ne_nil : entry.line.toList ≠ []
  head : ∀ c ∈ entry.line.toList.head?, Text.isBlank c = false
  reason : Reads entry.reason.text.toList

/-- The columns of a table with a row for each of some entries. -/
def widthsOf [Text.EmojiTable] (entries : List Diagnostic) : Widths :=
  columnWidths resultWidth (titles :: entries.map Diagnostic.row)

theorem fullWidth_toString [Text.EmojiTable] (n : Nat) :
    numberFormat.fullWidth (toString n) = (toString n).toList.length + 1 := by
  have hdigits := isDigits_toString n
  exact fullWidth_of_printable hdigits.printable
    (Text.replaceEmoji_of_not_holdsCode hdigits.not_holdsCode) numberFormat

/-- The title of the numbers has no code in it. -/
theorem fullWidth_title [Text.EmojiTable] : numberFormat.fullWidth titles.number = 5 := rfl

theorem one_lt_number [Text.EmojiTable] (entries : List Diagnostic) :
    1 < (widthsOf entries).number := by
  have hmem : titles ∈ titles :: entries.map Diagnostic.row := List.mem_cons_self
  have htitle := number_columnWidths hmem resultWidth
  have hroom : resultWidth - frameWidth = 96 := rfl
  change _ ≤ (widthsOf entries).number at htitle
  rw [fullWidth_title, hroom] at htitle
  omega

theorem legible_row [Text.EmojiTable] (entries : List Diagnostic) {entry : Diagnostic}
    (hentry : Presentable entry) :
    entry.row.Legible (widthsOf entries) where
  number := by
    obtain ⟨line, hline, hne, -⟩ :=
      exists_line_of_digits (isDigits_toString entry.lineNumber) (one_lt_number entries)
    exact ⟨line, hline, hne⟩
  numberInner := isInner_of_printable (isDigits_toString entry.lineNumber).printable
  firstInner := isInner_of_printable hentry.printable
  secondInner := isInner_of_printable hentry.reason.printable

section

variable [table : Text.EmojiTable] {entries : List Diagnostic} {entry : Diagnostic}
  (h : entry ∈ entries)
include h

/-- The column of the numbers has room for a number of at most 95 digits, and for no other. -/
theorem length_lt_number_iff :
    (toString entry.lineNumber).toList.length < (widthsOf entries).number ↔
      entry.lineNumber < 10 ^ 95 := by
  have hle := number_columnWidths_le resultWidth (titles :: entries.map Diagnostic.row)
  have hroom := number_columnWidths
    (List.mem_cons_of_mem titles (List.mem_map_of_mem (f := Diagnostic.row) h)) resultWidth
  change min 96 (numberFormat.fullWidth (toString entry.lineNumber)) ≤ (widthsOf entries).number
    at hroom
  change (widthsOf entries).number ≤ 96 at hle
  rw [fullWidth_toString] at hroom
  rw [← length_toString_le_iff (by decide)]
  omega

theorem readsAs_shown (htable : table.IsPictorial) (hentry : Presentable entry) :
    ReadsAs (widthsOf entries) entry (entry.row.shown (widthsOf entries)) where
  number := by
    obtain ⟨line, hline, -, hreads⟩ :=
      exists_line_of_digits (isDigits_toString entry.lineNumber) (one_lt_number entries)
    change withoutSpaces (numberFormat.lines _ (toString entry.lineNumber)).flatten = _ ↔ _
    rw [hline, List.flatten_singleton, hreads]
    exact length_lt_number_iff h
  first := shown_text_iff htable rfl hentry.printable hentry.ne_nil hentry.head
  second :=
    shown_text_iff htable rfl hentry.reason.printable hentry.reason.ne_nil hentry.reason.head

/-- Where the line numbers have at most ten digits each text has 42 columns, or all it asks for. -/
theorem texts_widthsOf (hnumbers : ∀ entry ∈ entries, entry.lineNumber < 10 ^ 10) :
    min 42 (firstFormat.fullWidth entry.line) ≤ (widthsOf entries).first ∧
      min 42 (secondFormat.fullWidth entry.reason.text) ≤ (widthsOf entries).second := by
  have hrow : entry.row ∈ titles :: entries.map Diagnostic.row :=
    List.mem_cons_of_mem titles (List.mem_map_of_mem h)
  apply texts_columnWidths hrow
  refine List.forall_mem_cons.2 ⟨?_, List.forall_mem_map.2 fun other hother => ?_⟩
  · rw [fullWidth_title]
    decide
  have hdigits := (length_toString_le_iff (by decide)).2 (hnumbers other hother)
  have hwidth := fullWidth_toString other.lineNumber
  change numberFormat.fullWidth (toString other.lineNumber) + 2 * 42 + 1 ≤ 96
  omega

end

/-- A text with a blank between any two colons, and no piece between spaces of more than 40
characters. -/
structure Short (text : List Char) : Prop where
  uncoded : ¬ Text.HoldsCode text
  pieces : ∀ piece ∈ Text.splitOn ' ' text, piece.length ≤ 40

/-- A short text is kept by a column of 40 and the blanks, and by one as wide as it asks for. -/
theorem Short.kept [Text.EmojiTable] {cell : String} (h : Short cell.toList)
    (hprintable : Printable cell.toList) {format : CellFormat} (hpadding : format.padding ≤ 2)
    {width : Nat} (hwidth : min 42 (format.fullWidth cell) ≤ width) :
    Kept (width - format.padding) cell.toList := by
  have hself := Text.replaceEmoji_of_not_holdsCode h.uncoded
  rw [fullWidth_of_printable hprintable hself] at hwidth
  refine ⟨hself, fun piece hpiece => ?_⟩
  have hshort := h.pieces piece hpiece
  -- a piece is no longer than the text that it is a piece of
  have hlength : piece.length ≤ cell.toList.length := by
    refine (List.sublist_flatten_of_mem hpiece).length_le.trans ?_
    rw [← Text.withoutSpaces_eq_flatten_splitOn]
    exact List.length_filter_le _ _
  omega

end Display

open Display (Kept Presentable ReadsAs Short widthsOf)

theorem presentable_of_mem_notedAll {mode : Mode} {lines : List String} {entry : Diagnostic}
    (h : entry ∈ notedAll mode lines) (hprintable : Printable entry.line.toList) :
    Presentable entry := by
  obtain ⟨hne, hhead, hreason⟩ := reads_of_mem_notedAll h
  exact ⟨hprintable, hne, hhead, hreason⟩

/-- The rows of the text of a failed check are its entries. -/
theorem Check.rowsIn_text [table : Text.EmojiTable] (htable : table.IsPictorial) (mode : Mode)
    (tally : Tally) (hfailed : tally.malformed ≠ [])
    (hentries : ∀ entry ∈ tally.malformed, Presentable entry) (verbose : Bool) :
    ∃ text, (result mode tally).text { isVerbose := verbose } = .ok text ∧
      rowsIn text =
        tally.malformed.map fun entry => entry.row.shown (widthsOf tally.malformed) := by
  refine ⟨_, text_result_of_malformed mode hfailed verbose, ?_⟩
  have hlegible : ∀ row ∈ tally.malformed.map Diagnostic.row,
      row.Legible (widthsOf tally.malformed) := by
    refine List.forall_mem_map.2 fun entry hentry => ?_
    exact Display.legible_row tally.malformed (hentries entry hentry)
  have hbelow : AllAre Display.IsInner (if verbose then contextLines mode else []) := by
    split
    · exact allAre_contextLines mode
    · simp [AllAre]
  -- there are no bars but those of the table, and no line feeds within a line
  rw [Display.rowsIn_textOf, Display.readRows_append, Display.readRows_tableLines htable hlegible,
    List.map_map]
  · rfl
  · intro line hline c hc
    exact (allAre_headline tally line hline c hc).1
  · intro line hline c hc
    exact (hbelow line hline c hc).1
  · refine List.forall_mem_append.2 ⟨List.forall_mem_append.2 ⟨?_, ?_⟩, ?_⟩
    · intro line hline c hc
      exact (allAre_headline tally line hline c hc).2
    · exact Display.allAre_tableLines htable hlegible
    · intro line hline c hc
      exact (hbelow line hline c hc).2

/-- A failed check whose malformed lines are printable shows a row for each of them, in order, and
in each row the number of the line. The line and the reason read as they were written exactly if
replacing codes for emoji leaves them as they are and no piece of them between spaces is wider than
the column; what is a code, the table says. So where there is a blank between any two colons of a
line or a reason, and no piece of them is longer than 40 characters, all is shown as it was written,
whatever else is in the lines. -/
theorem rejected_lines_shown [table : Text.EmojiTable] (htable : table.IsPictorial) (mode : Mode)
    (source : Source) (verbose : Bool) (result : Result)
    (hrun : (Check.run mode source).result = .ok result) (hfailed : result.ok = false)
    (hprintable : ∀ entry ∈ notedAll mode source.readAll.lines, Printable entry.line.toList) :
    let entries := notedAll mode source.readAll.lines
    result.data.get? "malformed" = some (.list (entries.map Diagnostic.toValue)) ∧
      ∃ text, result.text { isVerbose := verbose } = .ok text ∧
        List.Forall₂ (ReadsAs (widthsOf entries)) entries (rowsIn text) ∧
        ((∀ entry ∈ entries, entry.lineNumber < 10 ^ 10 ∧ Short entry.line.toList ∧
            Short entry.reason.text.toList) →
          rowsIn text = entries.map fun entry =>
            ⟨(toString entry.lineNumber).toList, withoutSpaces entry.line.toList,
              withoutSpaces entry.reason.text.toList⟩) := by
  intro entries
  obtain rfl := Check.result_of_run hrun
  have hmalformed : (Check.countLines mode {} source.readAll.lines).1.malformed = entries :=
    Check.malformed_countLines mode source.readAll.lines
  have hsome : (Check.countLines mode {} source.readAll.lines).1.malformed ≠ [] := by
    intro hnone
    rw [Check.ok_result, hnone] at hfailed
    cases hfailed
  have hpresentable : ∀ entry ∈ entries, Presentable entry := by
    intro entry hentry
    exact presentable_of_mem_notedAll hentry (hprintable entry hentry)
  obtain ⟨text, htext, hrows⟩ := Check.rowsIn_text htable mode _ hsome
    (hmalformed ▸ hpresentable) verbose
  rw [hmalformed] at hrows
  have hreads : ∀ entry ∈ entries,
      ReadsAs (widthsOf entries) entry (entry.row.shown (widthsOf entries)) := by
    intro entry hentry
    exact Display.readsAs_shown hentry htable (hpresentable entry hentry)
  refine ⟨?_, text, htext, ?_, ?_⟩
  · rw [Check.data_result, ← hmalformed]
    rfl
  · rw [hrows, List.forall₂_map_right_iff, List.forall₂_same]
    exact hreads
  · intro hshort
    rw [hrows]
    apply List.map_congr_left
    intro entry hentry
    -- the columns have room for each piece, so each of the three cells is kept
    obtain ⟨hnumber, hline, hreason⟩ := hshort entry hentry
    obtain ⟨hroom, hroom'⟩ :=
      Display.texts_widthsOf hentry fun other hother => (hshort other hother).1
    have hread := hreads entry hentry
    have hentry := hpresentable entry hentry
    have hlong : entry.lineNumber < 10 ^ 95 :=
      hnumber.trans_le (Nat.pow_le_pow_right (by decide) (by decide))
    have hfirst := hread.first.2 (hline.kept hentry.printable (by decide) hroom)
    have hsecond := hread.second.2 (hreason.kept hentry.reason.printable (by decide) hroom')
    rw [← hread.number.2 hlong, ← hfirst, ← hsecond]

section

open scoped Text.FewEmoji

/-- Brackets, quotes, backslashes and a colon in the lines of a script. -/
theorem rejected_lines_shown_marks :
    let lines := ["[bold]jump[/bold]", " MOVE \\o/ 'n: 5\" "]
    let result := Check.result .strict (Check.countLines .strict {} lines).1
    (Check.run .strict (Source.ofLines lines none)).result = .ok result ∧ result.ok = false ∧
      ∃ text, result.text { isVerbose := true } = .ok text ∧
        rowsIn text =
          [⟨"1".toList, "[bold]jump[/bold]".toList, "unknowncommand'[BOLD]JUMP[/BOLD]'".toList⟩,
            ⟨"2".toList, "MOVE\\o/'n:5\"".toList, "MOVEtakesnoarguments".toList⟩] := by
  intro lines result
  have hrun := Check.run_ofLines .strict lines
  have hread : (Source.ofLines lines none).readAll.lines = lines := by
    rw [Source.readAll_ofLines]
  have hprintable : ∀ entry ∈ notedAll .strict lines, Printable entry.line.toList := by
    decide +kernel
  obtain ⟨-, text, htext, -, hrows⟩ := rejected_lines_shown Text.isPictorial_fewEmoji .strict
    (Source.ofLines lines none) true result hrun rfl (by rw [hread]; exact hprintable)
  rw [hread] at hrows
  -- no text has two colons, and none has a long piece
  have hplain : ∀ entry ∈ notedAll .strict lines, entry.lineNumber < 10 ^ 10 ∧
      (entry.line.toList.count ':' < 2 ∧
        ∀ piece ∈ Text.splitOn ' ' entry.line.toList, piece.length ≤ 40) ∧
      entry.reason.text.toList.count ':' < 2 ∧
        ∀ piece ∈ Text.splitOn ' ' entry.reason.text.toList, piece.length ≤ 40 := by
    decide +kernel
  refine ⟨hrun, rfl, text, htext, ?_⟩
  rw [hrows fun entry hentry => ?_]
  · decide +kernel
  · obtain ⟨hnumber, ⟨hline, hpieces⟩, hreason, hpieces'⟩ := hplain entry hentry
    exact ⟨hnumber, ⟨fun hcode => absurd hcode.two_le_count (Nat.not_le.2 hline), hpieces⟩,
      ⟨fun hcode => absurd hcode.two_le_count (Nat.not_le.2 hreason), hpieces'⟩⟩

/-- A line that is a code for an emoji is not shown as it was written, and neither is the reason in
which it is quoted. -/
theorem rejected_code_replaced :
    let lines := [":x:"]
    let result := Check.result .strict (Check.countLines .strict {} lines).1
    (Check.run .strict (Source.ofLines lines none)).result = .ok result ∧ result.ok = false ∧
      (∀ entry ∈ notedAll .strict lines, Printable entry.line.toList) ∧
      ∃ text, result.text {} = .ok text ∧
        rowsIn text = [⟨['1'], ['\u274C'], "unknowncommand'\u274C'".toList⟩] ∧
        rowsIn text ≠ (notedAll .strict lines).map fun entry =>
          ⟨(toString entry.lineNumber).toList, withoutSpaces entry.line.toList,
            withoutSpaces entry.reason.text.toList⟩ := by
  intro lines result
  have hprintable : ∀ entry ∈ notedAll .strict lines, Printable entry.line.toList := by
    decide +kernel
  have hnoted := Check.malformed_countLines .strict lines
  have hpresentable : ∀ entry ∈ (Check.countLines .strict {} lines).1.malformed,
      Presentable entry := by
    intro entry hentry
    rw [hnoted] at hentry
    exact presentable_of_mem_notedAll hentry (hprintable entry hentry)
  obtain ⟨text, htext, hrows⟩ :=
    Check.rowsIn_text Text.isPictorial_fewEmoji .strict (Check.countLines .strict {} lines).1
      (by decide) hpresentable false
  refine ⟨Check.run_ofLines .strict lines, rfl, hprintable, text, htext, ?_⟩
  rw [hrows]
  decide +kernel

end

end Tabletop
