import Tabletop.Display.Table

/-!
# The widths of the columns of a table

A cell wants to be as wide as its widest line and its blanks, and gets this or the limit of its
column, whichever is less (`naturalWidth_eq`). A table that would be too wide takes columns from its
texts alone, as long as the numbers fit by themselves (`number_fitted`), so a number has all the
room it wants up to the width of the table (`number_columnWidths`). The texts share what is left
evenly, so where the numbers are short each of them has its room up to a certain width
(`texts_columnWidths`).
-/

set_option autoImplicit false

namespace Tabletop.Display

/-! ## The widest of some cells -/

theorem foldl_max_le_iff {widths : List Nat} {start limit : Nat} :
    widths.foldl max start ≤ limit ↔ start ≤ limit ∧ ∀ width ∈ widths, width ≤ limit := by
  induction widths generalizing start with
  | nil => simp
  | cons width widths ih =>
    rw [List.foldl_cons, ih, List.forall_mem_cons, Nat.max_le, and_assoc]

theorem le_foldl_max {widths : List Nat} {width : Nat} (h : width ∈ widths) (start : Nat) :
    width ≤ widths.foldl max start :=
  (foldl_max_le_iff.1 (Nat.le_refl _)).2 width h

/-- The width of a cell with all of its text in it. -/
def CellFormat.fullWidth [Text.EmojiTable] (format : CellFormat) (cell : String) : Nat :=
  widestLine (plain cell) + format.padding

/-- A cell is as wide as its text asks for, up to the limit. -/
theorem CellFormat.naturalWidth_eq [Text.EmojiTable] (format : CellFormat) (limit : Nat)
    (cell : String) :
    format.naturalWidth limit cell = min limit (format.fullWidth cell) := by
  unfold naturalWidth fullWidth
  split <;> omega

section

variable {rows : List Row}

theorem number_naturalWidths_le_iff [Text.EmojiTable] {limits : Widths} {bound : Nat} :
    (naturalWidths limits rows).number ≤ bound ↔
      ∀ row ∈ rows, min limits.number (numberFormat.fullWidth row.number) ≤ bound := by
  simp only [naturalWidths, foldl_max_le_iff, List.forall_mem_map, CellFormat.naturalWidth_eq,
    Nat.zero_le, true_and]

section

variable {row : Row} (h : row ∈ rows) (limits : Widths)
include h

theorem le_number_naturalWidths [Text.EmojiTable] :
    min limits.number (numberFormat.fullWidth row.number) ≤ (naturalWidths limits rows).number :=
  number_naturalWidths_le_iff.1 (Nat.le_refl _) row h

theorem le_first_naturalWidths [Text.EmojiTable] :
    min limits.first (firstFormat.fullWidth row.first) ≤ (naturalWidths limits rows).first := by
  rw [← CellFormat.naturalWidth_eq]
  apply le_foldl_max
  exact List.mem_map.2 ⟨row, h, rfl⟩

theorem le_second_naturalWidths [Text.EmojiTable] :
    min limits.second (secondFormat.fullWidth row.second) ≤ (naturalWidths limits rows).second := by
  rw [← CellFormat.naturalWidth_eq]
  apply le_foldl_max
  exact List.mem_map.2 ⟨row, h, rfl⟩

end

/-- Columns of their natural widths keep them where the limits are no less. -/
theorem number_naturalWidths_again [Text.EmojiTable] {limits tighter : Widths}
    (h : tighter.number = (naturalWidths limits rows).number) :
    (naturalWidths tighter rows).number = (naturalWidths limits rows).number := by
  apply Nat.le_antisymm
  · rw [number_naturalWidths_le_iff, h]
    exact fun row _ => Nat.min_le_left _ _
  · rw [number_naturalWidths_le_iff]
    intro row hrow
    have hfirst := le_number_naturalWidths hrow limits
    have hsecond := le_number_naturalWidths hrow tighter
    omega

end

/-! ## Columns made narrower -/

namespace Widths

/-- Columns that fit are not halved. -/
theorem halved_eq_self {limit : Nat} {level : Widths} (h : level.total ≤ limit) :
    level.halved (level.total - limit) = level := by
  have hnone : level.total - limit = 0 := Nat.sub_eq_zero_of_le h
  simp [hnone, halved, roundDiv]

/-- When the wider text has given way there is room for the number beside what halving leaves. -/
theorem number_add_halved_le {limit : Nat} (level : Widths) (hnumber : level.number ≤ limit)
    (hlevel : level.total ≤ limit ∨ level.first = level.second) :
    level.number + ((level.halved (level.total - limit)).first +
      (level.halved (level.total - limit)).second) ≤ limit := by
  by_cases hfits : level.total ≤ limit
  · rw [halved_eq_self hfits, ← Nat.add_assoc]
    exact hfits
  · -- halving takes all that is too much, or leaves nothing but the number
    obtain ⟨number, first, second⟩ := level
    obtain rfl : first = second := hlevel.resolve_left hfits
    have hhalves := halved_of_equal ((Widths.mk number first first).total - limit) number first
    have hkept : ((Widths.mk number first first).halved
      ((Widths.mk number first first).total - limit)).number = number := rfl
    generalize (Widths.mk number first first).halved
      ((Widths.mk number first first).total - limit) = half at hhalves hkept ⊢
    simp only [total] at hfits hhalves hnumber ⊢
    omega

/-- The number keeps its columns if there is room for it alone. -/
theorem number_fitted {limit : Nat} {widths : Widths} (h : widths.number ≤ limit) :
    (widths.fitted limit).number = widths.number := by
  have hlevel := levelled_fits_or_equal limit widths
  have hroom := number_add_halved_le (widths.levelled (widths.total - limit)) h hlevel
  exact Nat.min_eq_left (Nat.le_sub_of_add_le hroom)

section

variable {limit room : Nat} (widths : Widths)

theorem le_levelled (h : widths.number + 2 * room ≤ limit) :
    min widths.first room ≤ (widths.levelled (widths.total - limit)).first ∧
      min widths.second room ≤ (widths.levelled (widths.total - limit)).second := by
  simp only [levelled, total]
  omega

/-- Both texts keep so many columns if half of what is too much, rounded up, leaves them. -/
theorem le_halved (h : widths.number + 2 * room + 1 ≤ limit)
    (hlevel : widths.total ≤ limit ∨ widths.first = widths.second) :
    min widths.first room ≤ (widths.halved (widths.total - limit)).first ∧
      min widths.second room ≤ (widths.halved (widths.total - limit)).second := by
  by_cases hfits : widths.total ≤ limit
  · rw [halved_eq_self hfits]
    omega
  · -- both are equally wide, and neither gives up more than half of what is too much, rounded up
    obtain ⟨number, first, second⟩ := widths
    obtain rfl : first = second := hlevel.resolve_left hfits
    have hhalf := roundDiv_two_bounds ((Widths.mk number first first).total - limit)
    simp only [halved]
    generalize roundDiv _ 2 = half at hhalf ⊢
    simp only [total] at hfits hhalf h ⊢
    omega

/-- A text keeps its columns up to so many, if twice as many and one more fit beside the number. -/
theorem texts_fitted (h : widths.number + 2 * room + 1 ≤ limit) :
    min widths.first room ≤ (widths.fitted limit).first ∧
      min widths.second room ≤ (widths.fitted limit).second := by
  obtain ⟨hfirst, hsecond⟩ := le_levelled widths (Nat.le_of_succ_le h)
  obtain ⟨hfirst', hsecond'⟩ := le_halved (widths.levelled (widths.total - limit)) h
    (levelled_fits_or_equal limit widths)
  simp only [fitted]
  omega

end

end Widths

/-! ## The columns of a table -/

/-- The limits of the columns where each may be as wide as the table. -/
def freeLimits (limit : Nat) : Widths :=
  ⟨limit - frameWidth, limit - frameWidth, limit - frameWidth⟩

/-- The columns have their natural widths, within the table or within what fits into it. -/
theorem columnWidths_cases [Text.EmojiTable] (limit : Nat) (rows : List Row) :
    columnWidths limit rows = naturalWidths (freeLimits limit) rows ∨
      columnWidths limit rows = naturalWidths
        ((naturalWidths (freeLimits limit) rows).fitted (limit - frameWidth)) rows := by
  unfold columnWidths freeLimits
  dsimp only
  split
  · exact Or.inl rfl
  · exact Or.inr rfl

theorem number_columnWidths_eq [Text.EmojiTable] (limit : Nat) (rows : List Row) :
    (columnWidths limit rows).number = (naturalWidths (freeLimits limit) rows).number := by
  rcases columnWidths_cases limit rows with h | h
  · rw [h]
  · rw [h]
    apply number_naturalWidths_again
    apply Widths.number_fitted
    rw [number_naturalWidths_le_iff]
    exact fun row _ => Nat.min_le_left _ _

/-- No number is wider than the table. -/
theorem number_columnWidths_le [Text.EmojiTable] (limit : Nat) (rows : List Row) :
    (columnWidths limit rows).number ≤ limit - frameWidth := by
  rw [number_columnWidths_eq, number_naturalWidths_le_iff]
  exact fun row _ => Nat.min_le_left _ _

section

variable {rows : List Row} {row : Row} (h : row ∈ rows)
include h

theorem number_columnWidths [Text.EmojiTable] (limit : Nat) :
    min (limit - frameWidth) (numberFormat.fullWidth row.number) ≤
      (columnWidths limit rows).number := by
  rw [number_columnWidths_eq]
  exact le_number_naturalWidths h (freeLimits limit)

/-- Where the numbers are short the texts have so many columns, unless they ask for less. -/
theorem texts_columnWidths [Text.EmojiTable] {limit room : Nat}
    (hnumbers : ∀ row ∈ rows,
      numberFormat.fullWidth row.number + 2 * room + 1 ≤ limit - frameWidth) :
    min room (firstFormat.fullWidth row.first) ≤ (columnWidths limit rows).first ∧
      min room (secondFormat.fullWidth row.second) ≤ (columnWidths limit rows).second := by
  have hfirst := le_first_naturalWidths h (freeLimits limit)
  have hsecond := le_second_naturalWidths h (freeLimits limit)
  have hrow := hnumbers row h
  have hnumber : (naturalWidths (freeLimits limit) rows).number + 2 * room + 1 ≤
      limit - frameWidth := by
    have hle : (naturalWidths (freeLimits limit) rows).number ≤
        limit - frameWidth - 2 * room - 1 := by
      rw [number_naturalWidths_le_iff]
      intro other hother
      have hfits := hnumbers other hother
      omega
    omega
  obtain ⟨hroom, hroom'⟩ := Widths.texts_fitted _ hnumber
  simp only [freeLimits] at hfirst hsecond hroom hroom'
  rcases columnWidths_cases limit rows with hwidths | hwidths
  · rw [hwidths]
    simp only [freeLimits]
    omega
  · have hfirst' := le_first_naturalWidths h
      ((naturalWidths (freeLimits limit) rows).fitted (limit - frameWidth))
    have hsecond' := le_second_naturalWidths h
      ((naturalWidths (freeLimits limit) rows).fitted (limit - frameWidth))
    rw [hwidths]
    simp only [freeLimits] at hfirst' hsecond' ⊢
    omega

end

end Tabletop.Display
