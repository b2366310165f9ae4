import Tabletop.Command.Grammar
import Tabletop.Proofs.Text.Case
import Tabletop.Proofs.Text.Words

/-!
# Reasons in words

Whatever a line holds, the reason why it is no command is one line of printable ASCII, which starts
with a letter (`reads_of_command`). The tokens that reasons quote are of the line, or its keyword in
upper case, and only ASCII is read that far; in quotes an ASCII text is printable
(`printable_quote`).
-/

set_option autoImplicit false

namespace Tabletop

namespace Text

/-- A text of ASCII characters. -/
def Ascii (cs : List Char) : Prop :=
  ∀ c ∈ cs, c.toNat < 0x80

theorem Ascii.of_subset {cs ds : List Char} (h : Ascii cs) (hsubset : ds ⊆ cs) : Ascii ds :=
  fun c hc => h c (hsubset hc)

theorem Ascii.upper {cs : List Char} (h : Ascii cs) : Ascii (upper cs) := by
  intro d hd
  obtain ⟨c, hc, rfl⟩ := List.mem_map.1 hd
  have hascii := h c hc
  by_cases hsmall : 'a' ≤ c ∧ c ≤ 'z'
  · have hshift := toNat_toUpper_of_small hsmall.1 hsmall.2
    omega
  · rwa [toUpper_of_not_small hsmall]

/-! ## Quotes -/

theorem printable_quoteFor (cs : List Char) : Printable [quoteFor cs] := by
  unfold quoteFor
  split <;> decide

theorem printable_numberEscape {n : Nat} (h : n < 0x80) : Printable (numberEscape n) := by
  have hall : ∀ n : Fin 0x80, Printable (numberEscape n) := by decide
  exact hall ⟨n, h⟩

/-- Of the ASCII characters, all that show as themselves are printable ASCII. -/
theorem printable_of_isPrintable {c : Char} (hascii : c.toNat < 0x80) (h : isPrintable c = true) :
    Printable [c] := by
  rw [Printable, List.forall_mem_singleton]
  by_cases hlow : c.toNat < 0x7F
  · simp only [isPrintable, hlow, if_true, decide_eq_true_eq] at h
    exact ⟨h, hlow⟩
  · -- the last ASCII character is a control
    have hnat : c.toNat = '\x7f'.toNat := by
      change c.toNat = 0x7F
      omega
    obtain rfl := Char.toNat_inj.1 hnat
    exact absurd h (by decide)

theorem printable_escapeIn {mark c : Char} (hmark : Printable [mark]) (hascii : c.toNat < 0x80) :
    Printable (escapeIn mark c) := by
  have hbackslash : Printable ['\\'] := by decide
  unfold escapeIn
  split
  · next hescaped =>
    rw [Bool.or_eq_true, decide_eq_true_eq, decide_eq_true_eq] at hescaped
    rcases hescaped with rfl | rfl
    · exact hbackslash.append hmark
    · exact hbackslash.append hbackslash
  · split
    · decide
    · split
      · decide
      · split
        · decide
        · split
          · next hshows => exact printable_of_isPrintable hascii hshows
          · exact printable_numberEscape hascii

/-- An ASCII text in quotes is printable. -/
theorem printable_quote {cs : List Char} (h : Ascii cs) : Printable (quote cs) := by
  have hmark := printable_quoteFor cs
  have hescaped : Printable (cs.flatMap (escapeIn (quoteFor cs))) := by
    intro d hd
    obtain ⟨c, hc, hd⟩ := List.mem_flatMap.1 hd
    exact printable_escapeIn hmark (h c hc) d hd
  exact (hmark.append hescaped).append hmark

end Text

open Text (Ascii Printable)

/-- Words on one line of printable ASCII, with no blank before them. -/
structure Reads (words : List Char) : Prop where
  printable : Printable words
  ne_nil : words ≠ []
  head : ∀ c ∈ words.head?, Text.isBlank c = false

theorem Reads.of_head {words : List Char} (hprintable : Printable words) (c : Char)
    (hhead : words.head? = some c) (hvisible : Text.isBlank c = false) : Reads words where
  printable := hprintable
  ne_nil := by
    rintro rfl
    cases hhead
  head d hd := by
    rw [hhead] at hd
    cases hd
    exact hvisible

/-- Words go on with any printable text. -/
theorem Reads.append {words : List Char} (h : Reads words) {more : List Char}
    (hmore : Printable more) : Reads (words ++ more) where
  printable := h.printable.append hmore
  ne_nil := by simp [h.ne_nil]
  head := by
    obtain ⟨c, cs, rfl⟩ := List.exists_cons_of_ne_nil h.ne_nil
    exact h.head

namespace Reason

/-- Words before a token in quotes. -/
theorem reads_quoting (words : String) (h : Reads words.toList) {token : List Char}
    (hascii : Ascii token) : Reads (words ++ String.ofList (Text.quote token)).toList := by
  rw [String.toList_append, String.toList_ofList]
  exact h.append (Text.printable_quote hascii)

theorem reads_unknownCommand {keyword : List Char} (h : Ascii keyword) :
    Reads (unknownCommand keyword).text.toList :=
  reads_quoting "unknown command " (.of_head (by decide) 'u' rfl (by decide)) h

theorem reads_invalidCoordinate {token : List Char} (h : Ascii token) :
    Reads (invalidCoordinate token).text.toList :=
  reads_quoting "invalid coordinate " (.of_head (by decide) 'i' rfl (by decide)) h

theorem reads_unknownDirection {token : List Char} (h : Ascii token) :
    Reads (unknownDirection token).text.toList :=
  reads_quoting "unknown direction " (.of_head (by decide) 'u' rfl (by decide)) h

/-- Only the words for commands are told to take no arguments. -/
theorem reads_takesNoArguments {keyword : List Char} {command : Command}
    (h : Grammar.bareCommand? keyword = some command) :
    Reads (takesNoArguments keyword).text.toList := by
  have hkeyword : Reads keyword := by
    unfold Grammar.bareCommand? at h
    repeat' split at h
    · next hword => exact hword ▸ .of_head (by decide) 'M' rfl (by decide)
    · next hword => exact hword ▸ .of_head (by decide) 'L' rfl (by decide)
    · next hword => exact hword ▸ .of_head (by decide) 'R' rfl (by decide)
    · next hword => exact hword ▸ .of_head (by decide) 'R' rfl (by decide)
    · cases h
  change Reads (String.ofList keyword ++ " takes no arguments").toList
  rw [String.toList_append, String.toList_ofList]
  exact hkeyword.append (by decide)

end Reason

namespace Grammar

/-- The keyword and what follows it are parts of the line. -/
theorem splitKeyword_subset (mode : Mode) (text : List Char) :
    (splitKeyword mode text).1 ⊆ text ∧ (splitKeyword mode text).2.getD [] ⊆ text := by
  cases mode with
  | strict =>
    refine ⟨(List.takeWhile_prefix _).subset, ?_⟩
    simp only [splitKeyword]
    split
    · exact List.nil_subset text
    · exact ((List.drop_suffix 1 _).trans (List.dropWhile_suffix _)).subset
  | lenient =>
    refine ⟨(List.takeWhile_prefix _).subset, ?_⟩
    simp only [splitKeyword]
    split
    · exact List.nil_subset text
    · exact ((List.dropWhile_suffix _).trans (List.dropWhile_suffix _)).subset

theorem arguments_subset {mode : Mode} {rest token : List Char} (h : token ∈ arguments mode rest) :
    token ⊆ rest := by
  intro c hc
  cases mode with
  | strict => exact Text.mem_of_mem_splitOn h hc
  | lenient =>
    obtain ⟨piece, hpiece, rfl⟩ := List.mem_map.1 h
    exact Text.mem_of_mem_splitOn hpiece (Text.mem_of_mem_trim hc)

theorem coordinate_eq_error {token : List Char} {reason : Reason}
    (h : coordinate token = .error reason) : reason = .invalidCoordinate token := by
  unfold coordinate at h
  split at h <;> cases h
  rfl

theorem direction_eq_error {token : List Char} {reason : Reason}
    (h : direction token = .error reason) : reason = .unknownDirection token := by
  unfold direction at h
  split at h <;> cases h
  rfl

theorem reads_of_placement {mode : Mode} {rest : List Char} (hascii : Ascii rest) {reason : Reason}
    (h : placement mode rest = .error reason) : Reads reason.text.toList := by
  unfold placement at h
  split at h
  · cases h
    exact .of_head (by decide) 'P' rfl (by decide)
  · split at h
    · next xToken yToken facing hargs =>
      have htoken : ∀ token ∈ [xToken, yToken, facing], Ascii token := fun token htoken =>
        hascii.of_subset (arguments_subset (hargs ▸ htoken))
      -- the first token that is bad is the one that is quoted
      cases hx : coordinate xToken with
      | error found =>
        rw [hx] at h
        cases h
        rw [coordinate_eq_error hx]
        exact Reason.reads_invalidCoordinate (htoken xToken (by simp))
      | ok x =>
        cases hy : coordinate yToken with
        | error found =>
          rw [hx, hy] at h
          cases h
          rw [coordinate_eq_error hy]
          exact Reason.reads_invalidCoordinate (htoken yToken (by simp))
        | ok y =>
          cases hfacing : direction facing with
          | error found =>
            rw [hx, hy, hfacing] at h
            cases h
            rw [direction_eq_error hfacing]
            exact Reason.reads_unknownDirection (htoken facing (by simp))
          | ok found =>
            rw [hx, hy, hfacing] at h
            cases h
    · cases h
      exact .of_head (by decide) 'P' rfl (by decide)

/-- Whatever a text holds, the reason why it is no command is printable. -/
theorem reads_of_command {mode : Mode} {text : List Char} {reason : Reason}
    (h : command mode text = .error reason) : Reads reason.text.toList := by
  unfold command at h
  split at h
  · cases h
    exact .of_head (by decide) 'e' rfl (by decide)
  · split at h
    · cases h
      exact .of_head (by decide) 'n' rfl (by decide)
    · next hall =>
      have hascii : Ascii text := by simpa [Text.isAscii, Ascii] using hall
      obtain ⟨hkeyword, hrest⟩ := splitKeyword_subset mode text
      dsimp only at h
      split at h
      · exact reads_of_placement (hascii.of_subset hrest) h
      · split at h
        · cases h
          exact Reason.reads_unknownCommand (hascii.of_subset hkeyword).upper
        · next hbare _ =>
          cases h
          exact Reason.reads_takesNoArguments hbare
        · cases h

end Grammar

end Tabletop
