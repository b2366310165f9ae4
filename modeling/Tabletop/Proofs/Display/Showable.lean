import Tabletop.Check
import Tabletop.Display.Result

/-!
# Results that can be shown

A result can fail to be shown, for an operation without a long form, for rejected lines that are no
records, and for values nested too deep (`Undisplayable`). None of this happens to a check: it has a
text in every mode, whatever was found in the script (`Check.showable_result`).
-/

set_option autoImplicit false

namespace Tabletop

/-- A result has a text in every mode. -/
def Result.Showable [Text.EmojiTable] (result : Result) : Prop :=
  ∀ mode : OutputMode, ∃ text, result.text mode = .ok text

/-! ## Depth -/

theorem depthOfItems_le {items : List Value} {limit : Nat}
    (h : ∀ item ∈ items, item.depth ≤ limit) : depthOfItems items ≤ limit := by
  induction items with
  | nil => exact Nat.zero_le limit
  | cons item items ih =>
    obtain ⟨hitem, hitems⟩ := List.forall_mem_cons.1 h
    rw [depthOfItems]
    exact Nat.max_le.2 ⟨hitem, ih hitems⟩

namespace Result

/-- A result has a text in every mode if its values are not nested too deep and it has a long form,
with all its details or without. -/
theorem showable_of_longText [Text.EmojiTable] {result : Result}
    (hdepth : result.depth ≤ maxJsonDepth)
    (hlong : ∀ verbose, ∃ text, result.longText verbose = .ok text) : result.Showable := by
  intro mode
  unfold text
  split
  · exact ⟨_, if_neg (Nat.not_lt.2 hdepth)⟩
  · split
    · exact ⟨_, rfl⟩
    · exact hlong mode.isVerbose

/-- An operation that went well has a long form if it is a check. -/
theorem exists_longText_of_ok [Text.EmojiTable] {result : Result} (hok : result.ok = true)
    (hop : result.op = "check") (verbose : Bool) : ∃ text, result.longText verbose = .ok text := by
  simp only [longText, hok, if_true, successLines, hop]
  exact ⟨_, rfl⟩

/-- A failure has a long form if the rejected lines of its details can be put into a table. -/
theorem exists_longText_of_not_ok [Text.EmojiTable] {result : Result} {rejected : List (List Char)}
    (hok : result.ok = false)
    (hrejected : Display.rejectedLines ((result.error.map OperationError.detail).getD []) =
      .ok rejected) (verbose : Bool) : ∃ text, result.longText verbose = .ok text := by
  simp only [longText, hok, Bool.false_eq_true, if_false, failureLines, hrejected]
  exact ⟨_, rfl⟩

end Result

/-! ## Checks -/

theorem Diagnostic.depth_toValue (diagnostic : Diagnostic) : diagnostic.toValue.depth = 2 := rfl

/-- The row of a noted line. -/
def Diagnostic.row (diagnostic : Diagnostic) : Display.Row :=
  ⟨toString diagnostic.lineNumber, diagnostic.line, diagnostic.reason.text⟩

theorem Diagnostic.rowOf_toValue (diagnostic : Diagnostic) :
    Display.rowOf diagnostic.toValue = .ok diagnostic.row :=
  rfl

/-- Noted lines can be put into a table, a row for each. -/
theorem rowsOf_toValue (diagnostics : List Diagnostic) :
    Display.rowsOf (.list (diagnostics.map Diagnostic.toValue)) =
      .ok (diagnostics.map Diagnostic.row) := by
  unfold Display.rowsOf
  induction diagnostics with
  | nil => rfl
  | cons diagnostic diagnostics ih =>
    simp only [List.map_cons, List.mapM_cons] at ih ⊢
    rw [diagnostic.rowOf_toValue]
    simp only [ih, bind, Except.bind, pure, Except.pure]

namespace Check

theorem depth_malformedValue (tally : Tally) : (malformedValue tally).depth ≤ 3 := by
  have hitems : depthOfItems (tally.malformed.map Diagnostic.toValue) ≤ 2 := by
    apply depthOfItems_le
    intro item hitem
    obtain ⟨diagnostic, -, rfl⟩ := List.mem_map.1 hitem
    exact Nat.le_of_eq diagnostic.depth_toValue
  rw [malformedValue, Value.depth]
  omega

theorem depth_figures (tally : Tally) : depthOfFields (figures tally) ≤ 3 := by
  have hmalformed := depth_malformedValue tally
  simp only [figures, depthOfFields, Value.depth]
  omega

/-- The malformed lines of a check are shown as a table, if there are any. -/
theorem rejectedLines_malformedValue [Text.EmojiTable] (tally : Tally) :
    Display.rejectedLines [("malformed", malformedValue tally)] =
      .ok (if tally.malformed = [] then []
        else Display.tableLines Display.resultWidth (tally.malformed.map Diagnostic.row)) := by
  have hdetail : Fields.get? [("malformed", malformedValue tally)] "malformed" =
      some (malformedValue tally) := rfl
  rw [Display.rejectedLines, hdetail]
  dsimp only
  rw [malformedValue, rowsOf_toValue]
  cases tally.malformed with
  | nil => rfl
  | cons diagnostic diagnostics => rfl

/-- Every check has a text in every mode, whatever was found in the script. -/
theorem showable_result [Text.EmojiTable] (mode : Mode) (tally : Tally) :
    (result mode tally).Showable := by
  have hmalformed := depth_malformedValue tally
  have hfigures := depth_figures tally
  unfold result
  dsimp only
  split
  · apply Result.showable_of_longText
    · simp only [Result.depth, Result.maxJsonDepth, Option.map_none, Option.getD_none,
        Option.getD_some, depthOfFields, Value.depth]
      omega
    · exact Result.exists_longText_of_ok rfl rfl
  · apply Result.showable_of_longText
    · simp only [Result.depth, Result.failure, Result.maxJsonDepth, Option.map_some,
        Option.getD_some, depthOfFields, Value.depth]
      omega
    · exact Result.exists_longText_of_not_ok rfl (rejectedLines_malformedValue tally)

end Check

end Tabletop
