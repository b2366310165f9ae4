import Tabletop.Proofs.Display.Widths
import Tabletop.Proofs.Text.Emoji
import Tabletop.Proofs.Text.Wrapped

/-!
# What the cells of a table show

The lines of a cell, put together again, read as the text of the cell without its spaces, unless
codes for emoji were replaced in it or a line was cut. For a printable text this is known beforehand
(`shown_text_iff`): it reads as it was written exactly if replacing codes leaves it as it is and no
piece between its spaces is wider than the column. A number reads as it is if its digits fit
(`exists_line_of_digits`). All this is so for every table of emoji, as far as they are pictures
(`Text.EmojiTable.IsPictorial`).
-/

set_option autoImplicit false

namespace Tabletop.Display

open Text (AllAre IsPictureChar Printable dots replaceEmoji withoutSpaces wrap)

/-- What a cell shows: its lines put together, without spaces. -/
def CellFormat.shown [Text.EmojiTable] (format : CellFormat) (width : Nat) (cell : String) :
    List Char :=
  withoutSpaces (format.lines width cell).flatten

/-! ## Plain texts -/

theorem settled_eq_self {cs : List Char} (h : ∀ c ∈ cs, movesCursor c = false) :
    settled cs = cs := by
  rw [settled, List.filter_eq_self]
  intro c hc
  rw [h c hc, Bool.not_false]

theorem movesCursor_of_printable {cs : List Char} (h : Printable cs) :
    ∀ c ∈ cs, movesCursor c = false := by
  intro c hc
  have hlow := (h c hc).1
  simp only [movesCursor, Bool.or_eq_false_iff, decide_eq_false_iff_not]
  omega

/-- A printable text without codes is plain. -/
theorem plain_eq_self [Text.EmojiTable] {cell : String} (h : Printable cell.toList)
    (hcode : replaceEmoji cell.toList = cell.toList) : plain cell = cell.toList := by
  rw [plain, hcode]
  exact settled_eq_self (movesCursor_of_printable h)

/-- A printable text without codes asks for as many columns as it is long, and its blanks. -/
theorem fullWidth_of_printable [Text.EmojiTable] {cell : String} (h : Printable cell.toList)
    (hcode : replaceEmoji cell.toList = cell.toList) (format : CellFormat) :
    format.fullWidth cell = cell.toList.length + format.padding := by
  have hline : ∀ c ∈ cell.toList, endsLine c = false := by
    intro c hc
    obtain ⟨hlow, hhigh⟩ := h c hc
    simp only [endsLine, Bool.or_eq_false_iff, Bool.and_eq_false_iff, decide_eq_false_iff_not]
    omega
  rw [CellFormat.fullWidth, plain_eq_self h hcode, widestLine,
    List.splitOnP_eq_singleton hline, List.map_singleton, List.foldl_cons, List.foldl_nil,
    Text.columns_of_printable h, Nat.zero_max]

section

variable [table : Text.EmojiTable] (htable : table.IsPictorial)
include htable

/-- A printable text has no controls, and neither have the emoji that come into it. -/
theorem plain_of_printable {cell : String} (h : Printable cell.toList) :
    plain cell = replaceEmoji cell.toList := by
  apply settled_eq_self
  refine Text.forall_mem_replaceEmoji htable (fun c hc => ?_) (movesCursor_of_printable h)
  have habove := hc.above
  simp only [movesCursor, Bool.or_eq_false_iff, decide_eq_false_iff_not]
  omega

theorem forall_mem_plain {P : Char → Prop} (hpictures : ∀ c, IsPictureChar c → P c) {cell : String}
    (h : ∀ c ∈ cell.toList, P c) : ∀ c ∈ plain cell, P c :=
  fun c hc => Text.forall_mem_replaceEmoji htable hpictures h c (List.mem_filter.1 hc).1

theorem onlySpaces_plain {cell : String} (h : Printable cell.toList) :
    Text.OnlySpaces (plain cell) :=
  forall_mem_plain htable
    (fun _ hc hblank => absurd (hblank.symm.trans hc.visible) (by decide)) h.onlySpaces

end

/-! ## Characters -/

theorem allAre_fillRight {P : Char → Prop} (hspace : P ' ') {line : List Char}
    (h : ∀ c ∈ line, P c) (width : Nat) : ∀ c ∈ fillRight width line, P c := by
  have hpad : ∀ {line : List Char}, (∀ c ∈ line, P c) → ∀ c ∈ padRight width line, P c :=
    fun h => List.forall_mem_append.2 ⟨h, fun c hc => List.eq_of_mem_replicate hc ▸ hspace⟩
  exact hpad (hpad h)

theorem allAre_numberLine {P : Char → Prop} (hspace : P ' ') (hdots : P dots) {line : List Char}
    (h : ∀ c ∈ line, P c) (width : Nat) : ∀ c ∈ numberLine width line, P c := by
  refine List.forall_mem_append.2 ⟨fun c hc => List.eq_of_mem_replicate hc ▸ hspace, ?_⟩
  apply Text.forall_mem_truncate hspace hdots
  intro c hc
  exact h c (List.mem_of_mem_take ((List.rdropWhile_prefix _ _).subset hc))

/-! ## Texts -/

theorem withoutSpaces_padded (left right : Nat) (line : List Char) :
    withoutSpaces (List.replicate left ' ' ++ line ++ List.replicate right ' ') =
      withoutSpaces line := by
  simp only [Text.withoutSpaces_append, Text.withoutSpaces_replicate, List.nil_append,
    List.append_nil]

theorem withoutSpaces_fillRight (width : Nat) (line : List Char) :
    withoutSpaces (fillRight width line) = withoutSpaces line := by
  simp only [fillRight, padRight, Text.withoutSpaces_append, Text.withoutSpaces_replicate,
    List.append_nil]

section

variable [table : Text.EmojiTable] {format : CellFormat} {width : Nat} {cell : String}

theorem shown_of_no_room (h : width - format.padding = 0) : format.shown width cell = [] := by
  rw [CellFormat.shown, CellFormat.lines, if_pos h]
  rfl

/-- A text shows what its lines hold. -/
theorem shown_of_text (htext : format.isNumber = false) (h : width - format.padding ≠ 0) :
    format.shown width cell =
      withoutSpaces (wrap (width - format.padding) .ellipsis (plain cell)).flatten := by
  rw [CellFormat.shown, CellFormat.lines, if_neg h, if_neg (by simp [htext]), List.map_map]
  apply Text.withoutSpaces_flatten_map
  intro line _
  exact (withoutSpaces_padded _ _ _).trans (withoutSpaces_fillRight _ line)

/-- A printable text that starts with no blank reads as it was written exactly if replacing codes
for emoji leaves it as it is and no piece between its spaces is wider than the column. -/
theorem shown_text_iff (htable : table.IsPictorial) (htext : format.isNumber = false)
    (hprintable : Printable cell.toList) (hne : cell.toList ≠ [])
    (hhead : ∀ c ∈ cell.toList.head?, Text.isBlank c = false) :
    format.shown width cell = withoutSpaces cell.toList ↔
      replaceEmoji cell.toList = cell.toList ∧
        ∀ piece ∈ Text.splitOn ' ' cell.toList, piece.length ≤ width - format.padding := by
  by_cases hroom : width - format.padding = 0
  · -- nothing is shown, but something is written
    rw [shown_of_no_room hroom, hroom]
    have hpieces : withoutSpaces cell.toList ≠ [] := by
      obtain ⟨c, cs, hcs⟩ := List.exists_cons_of_ne_nil hne
      have hvisible : c ≠ ' ' := by
        rintro rfl
        exact absurd (hhead ' ' (by simp [hcs])) (by decide)
      rw [hcs, withoutSpaces, List.filter_cons_of_pos (by simpa using hvisible)]
      exact List.cons_ne_nil _ _
    refine iff_of_false hpieces.symm ?_
    rintro ⟨-, hshort⟩
    apply hpieces
    rw [Text.withoutSpaces_eq_flatten_splitOn, List.flatten_eq_nil_iff]
    exact fun piece hpiece => List.eq_nil_of_length_eq_zero (Nat.le_zero.1 (hshort piece hpiece))
  · rw [shown_of_text htext hroom]
    constructor
    · intro hsame
      -- what is shown is printable, so no dots and no pictures are in it
      have hshown : Printable (withoutSpaces
          (wrap (width - format.padding) .ellipsis (plain cell)).flatten) := by
        rw [hsame]
        exact fun c hc => hprintable c (List.mem_filter.1 hc).1
      have huncut := (Text.withoutSpaces_wrap_or_dots (onlySpaces_plain htable hprintable)
        (width - format.padding)).resolve_right fun hdots =>
          hshown.not_mem_dots (List.mem_filter.2 ⟨hdots, by decide⟩)
      have hcode : replaceEmoji cell.toList = cell.toList := by
        apply Text.replaceEmoji_eq_of_ascii htable
        intro c hc
        rw [plain_of_printable htable hprintable] at huncut hshown
        rw [huncut] at hshown
        by_cases hspace : c = ' '
        · rw [hspace]
          decide
        · exact (hshown c (List.mem_filter.2 ⟨hc, by simpa using hspace⟩)).2
      rw [plain_eq_self hprintable hcode, Text.withoutSpaces_wrap_iff hprintable hhead]
        at hsame
      exact ⟨hcode, hsame⟩
    · rintro ⟨hcode, hshort⟩
      rw [plain_eq_self hprintable hcode, Text.withoutSpaces_wrap_iff hprintable hhead]
      exact hshort

/-- A cell shows the characters of its text, but no line feeds, and spaces and dots. -/
theorem allAre_lines {P : Char → Prop} (hspace : P ' ') (hdots : P dots)
    (h : ∀ c ∈ plain cell, c ≠ '\n' → P c) : AllAre P (format.lines width cell) := by
  intro line hline
  unfold CellFormat.lines at hline
  dsimp only at hline
  split at hline
  · cases hline
  · obtain ⟨inner, hinner, rfl⟩ := List.mem_map.1 hline
    have hspaces : ∀ n, ∀ c ∈ List.replicate n ' ', P c := fun n c hc =>
      List.eq_of_mem_replicate hc ▸ hspace
    refine List.forall_mem_append.2 ⟨List.forall_mem_append.2 ⟨hspaces _, ?_⟩, hspaces _⟩
    split at hinner
    · obtain ⟨part, hpart, rfl⟩ := List.mem_map.1 hinner
      exact allAre_numberLine hspace hdots (Text.allAre_parts hspace h part hpart) _
    · obtain ⟨part, hpart, rfl⟩ := List.mem_map.1 hinner
      exact allAre_fillRight hspace (Text.allAre_wrap hspace hdots _ _ h part hpart) _

end

/-! ## Numbers -/

/-- A row of digits, which is not empty. -/
structure IsDigits (cs : List Char) : Prop where
  ne_nil : cs ≠ []
  bounds : ∀ c ∈ cs, '0' ≤ c ∧ c ≤ '9'

namespace IsDigits

variable {cs : List Char} (h : IsDigits cs)
include h

theorem printable : Printable cs := by
  intro c hc
  obtain ⟨hlow, hhigh⟩ := h.bounds c hc
  have hlow : 0x30 ≤ c.toNat := hlow
  have hhigh : c.toNat ≤ 0x39 := hhigh
  omega

theorem visible : ∀ c ∈ cs, Text.isBlank c = false := by
  intro c hc
  obtain ⟨hlow, hhigh⟩ := h.bounds c hc
  have hlow : 0x30 ≤ c.toNat := hlow
  have hhigh : c.toNat ≤ 0x39 := hhigh
  exact Text.isBlank_of_visible (by omega) (by omega)

theorem space_not_mem : ' ' ∉ cs := by
  intro hspace
  exact absurd (h.visible ' ' hspace) (by decide)

theorem not_holdsCode : ¬ Text.HoldsCode cs := by
  rintro ⟨before, code, after, rfl, -⟩
  exact absurd (h.bounds ':' (by simp)) (by decide)

theorem numberLine_eq (width : Nat) :
    numberLine width cs = padLeft width (Text.truncate width .ellipsis cs) := by
  have hbare : Text.bare cs = cs := Text.bare_of_visible h.visible
  rw [numberLine, Text.dropExcess_of_bare hbare]
  change padLeft width (Text.truncate width .ellipsis (Text.bare cs)) = _
  rw [hbare]

/-- A number reads as it is exactly if there is room for its digits, and always as something. -/
theorem withoutSpaces_numberLine (width : Nat) :
    withoutSpaces (numberLine width cs) ≠ [] ∧
      (withoutSpaces (numberLine width cs) = cs ↔ cs.length ≤ width) := by
  rw [h.numberLine_eq, padLeft, Text.withoutSpaces_append, Text.withoutSpaces_replicate,
    List.nil_append, Text.truncate, Text.columns_of_printable h.printable]
  split
  · next hfits =>
    rw [Text.withoutSpaces_of_not_mem h.space_not_mem]
    exact ⟨h.ne_nil, iff_of_true rfl hfits⟩
  · next hlong =>
    have hdots : dots ∈ withoutSpaces (Text.crop (width - 1) cs ++ ['\u2026']) :=
      List.mem_filter.2 ⟨List.mem_append_right _ List.mem_cons_self, by decide⟩
    refine ⟨List.ne_nil_of_mem hdots, iff_of_false (fun hsame => ?_) hlong⟩
    rw [hsame] at hdots
    exact h.printable.not_mem_dots hdots

end IsDigits

theorem plain_of_digits [Text.EmojiTable] {cell : String} (h : IsDigits cell.toList) :
    plain cell = cell.toList :=
  plain_eq_self h.printable (Text.replaceEmoji_of_not_holdsCode h.not_holdsCode)

/-- A number stands on one line, on which there is something, and which reads as the number exactly
if its digits fit. -/
theorem exists_line_of_digits [Text.EmojiTable] {cell : String} (h : IsDigits cell.toList)
    {width : Nat} (hwidth : 1 < width) :
    ∃ line, numberFormat.lines width cell = [line] ∧ withoutSpaces line ≠ [] ∧
      (withoutSpaces line = cell.toList ↔ cell.toList.length < width) := by
  have hroom : width - numberFormat.padding ≠ 0 := by
    change width - 1 ≠ 0
    omega
  obtain ⟨hne, hreads⟩ := h.withoutSpaces_numberLine (width - 1)
  rw [CellFormat.lines, if_neg hroom, plain_of_digits h,
    Text.parts_of_onlySpaces h.printable.onlySpaces]
  refine ⟨_, rfl, ?_, ?_⟩
  · rw [withoutSpaces_padded]
    exact hne
  · rw [withoutSpaces_padded]
    refine hreads.trans ?_
    omega

end Tabletop.Display
