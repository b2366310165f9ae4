import Tabletop.Proofs.Command.Normalised
import Tabletop.Proofs.Command.Reasons
import Tabletop.Proofs.Text.Quoted

/-!
# What reasons quote

Three of the reasons why a line is no command quote a token of it. `Offends` gives that token as
rules: the keyword in upper case if it is the word of no command, and else, of the three arguments
of a placement, the first one that is not as it should be. The rules part the text by themselves
(`Heads`, `Argues`) and go by the written forms of commands.

A line is refused with a reason that quotes a token exactly if that token offends
(`command_eq_error_iff`). The reason is one line of printable ASCII, and what it quotes is read back
as the token, so the reasons tell any two tokens of a kind apart (`offending_token_quoted`).
-/

set_option autoImplicit false

namespace Tabletop

open Text (Ascii)

/-! ## The parts of a text -/

/-- The kinds of reasons that quote a token. -/
inductive Quotation where
  | command
  | coordinate
  | direction
  deriving DecidableEq, Repr

namespace Quotation

/-- The reason of a kind that quotes a token. -/
def reason : Quotation → List Char → Reason
  | command => .unknownCommand
  | coordinate => .invalidCoordinate
  | direction => .unknownDirection

/-- The words of a reason before the token. -/
def words : Quotation → String
  | command => "unknown command "
  | coordinate => "invalid coordinate "
  | direction => "unknown direction "

theorem text_reason (kind : Quotation) (token : List Char) :
    (kind.reason token).text = kind.words ++ String.ofList (Text.quote token) := by
  cases kind <;> rfl

/-- The words of a reason that quotes a token tell its kind and the token. -/
theorem text_reason_inj {kind other : Quotation} {token quoted : List Char} :
    (kind.reason token).text = (other.reason quoted).text ↔ kind = other ∧ token = quoted := by
  rw [text_reason, text_reason, ← Text.quote_inj, ← String.toList_inj]
  cases kind <;> cases other <;> simp [words]

end Quotation

namespace Grammar

/-- The parts of a text: its keyword, and what follows it if anything does. The keyword ends at the
first space, or in the lenient mode at the first blanks. -/
inductive Heads : Mode → List Char → List Char → Option (List Char) → Prop
  | word {text : List Char} (h : ' ' ∉ text) : Heads .strict text text none
  | space {keyword : List Char} (rest : List Char) (h : ' ' ∉ keyword) :
    Heads .strict (keyword ++ ' ' :: rest) keyword (some rest)
  | visible {text : List Char} (h : ∀ c ∈ text, Text.isBlank c = false) :
    Heads .lenient text text none
  | gap {text keyword gap rest : List Char} (h : Gap text keyword gap rest) :
    Heads .lenient text keyword (some rest)

/-- A piece between commas as an argument: the lenient mode leaves out the blanks around it. -/
def argumentOf : Mode → List Char → List Char
  | .strict, piece => piece
  | .lenient, piece => Text.trim piece

/-- A text of three pieces with commas between them, and its three arguments. -/
inductive Argues (mode : Mode) : List Char → List Char → List Char → List Char → Prop
  | pieces {x y facing : List Char} (hx : ',' ∉ x) (hy : ',' ∉ y) (hfacing : ',' ∉ facing) :
    Argues mode (x ++ ',' :: (y ++ ',' :: facing)) (argumentOf mode x) (argumentOf mode y)
      (argumentOf mode facing)

/-- The first of three arguments that is not as it should be: two numerals and a direction. -/
inductive Faulty (x y facing : List Char) : Quotation → List Char → Prop
  | first (hx : ∀ n, ¬ Numeral x n) : Faulty x y facing .coordinate x
  | second {n : Int} (hx : Numeral x n) (hy : ∀ m, ¬ Numeral y m) :
    Faulty x y facing .coordinate y
  | third {n m : Int} (hx : Numeral x n) (hy : Numeral y m)
    (hfacing : ∀ direction : Direction, ¬ Text.Spells (facingWord direction) facing) :
    Faulty x y facing .direction facing

/-- The token for which a text is no command: its keyword in upper case, if that is the word of no
command, or the first faulty one of the three arguments of a placement. -/
inductive Offends (mode : Mode) (text : List Char) : Quotation → List Char → Prop
  | keyword {keyword : List Char} {rest : Option (List Char)}
    (hheads : Heads mode text keyword rest)
    (hunknown : ∀ command, ¬ Text.Spells (word command) keyword) :
    Offends mode text .command (Text.upper keyword)
  | argument {keyword rest x y facing token : List Char} {kind : Quotation}
    (hheads : Heads mode text keyword (some rest))
    (hplace : Text.Spells (word (.place 0 0 .north)) keyword)
    (hargues : Argues mode rest x y facing) (hfaulty : Faulty x y facing kind token) :
    Offends mode text kind token

variable {mode : Mode} {text keyword rest x y facing token : List Char} {kind : Quotation}

theorem exists_heads (mode : Mode) (text : List Char) :
    ∃ keyword rest, Heads mode text keyword rest := by
  cases mode with
  | strict =>
    by_cases hspace : ' ' ∈ text
    · obtain ⟨keyword, rest, rfl, hkeyword⟩ := List.eq_append_cons_of_mem hspace
      exact ⟨keyword, some rest, .space rest hkeyword⟩
    · exact ⟨text, none, .word hspace⟩
  | lenient =>
    rcases exists_gap text with hall | ⟨keyword, gap, rest, hgap⟩
    · exact ⟨text, none, .visible hall⟩
    · exact ⟨keyword, some rest, .gap hgap⟩

/-- A text has its parts in one way only. -/
theorem Heads.splitKeyword_eq {rest : Option (List Char)} (h : Heads mode text keyword rest) :
    splitKeyword mode text = (keyword, rest) := by
  cases h with
  | word h => exact splitKeyword_strict_of_not_mem h
  | space rest h => exact splitKeyword_strict_append h rest
  | visible h => exact splitKeyword_lenient_of_forall h
  | gap h => exact h.splitKeyword_eq

theorem arguments_eq_map (mode : Mode) (rest : List Char) :
    arguments mode rest = (Text.splitOn ',' rest).map (argumentOf mode) := by
  cases mode with
  | strict => exact (List.map_id _).symm
  | lenient => rfl

/-- A text has its three arguments in one way only. -/
theorem argues_iff : Argues mode rest x y facing ↔ arguments mode rest = [x, y, facing] := by
  rw [arguments_eq_map]
  constructor
  · rintro ⟨hx, hy, hfacing⟩
    have hpieces := arguments_strict_eq_iff.2 ⟨rfl, hx, hy, hfacing⟩
    rw [arguments] at hpieces
    rw [hpieces]
    rfl
  · intro h
    obtain ⟨first, _, hpieces, rfl, hbehind⟩ := List.map_eq_cons_iff.1 h
    obtain ⟨second, _, rfl, rfl, hlast⟩ := List.map_eq_cons_iff.1 hbehind
    obtain ⟨third, rfl, rfl⟩ := List.map_eq_singleton_iff.1 hlast
    obtain ⟨rfl, hx, hy, hfacing⟩ := arguments_strict_eq_iff.1 hpieces
    exact .pieces hx hy hfacing

theorem Argues.ne_nil (h : Argues mode rest x y facing) : rest ≠ [] := by
  obtain ⟨-, -, -⟩ := h
  simp

/-! ## The token at fault -/

theorem coordinate_eq_error_iff {reason : Reason} :
    coordinate token = .error reason ↔
      reason = .invalidCoordinate token ∧ ∀ n, ¬ Numeral token n := by
  constructor
  · intro h
    refine ⟨coordinate_eq_error h, fun n hn => ?_⟩
    rw [coordinate_eq_ok_iff.2 hn] at h
    cases h
  · rintro ⟨rfl, hnone⟩
    cases h : coordinate token with
    | ok n => exact absurd (coordinate_eq_ok_iff.1 h) (hnone n)
    | error reason => rw [coordinate_eq_error h]

theorem direction_eq_error_iff {reason : Reason} :
    direction token = .error reason ↔
      reason = .unknownDirection token ∧
        ∀ found : Direction, ¬ Text.Spells (facingWord found) token := by
  constructor
  · intro h
    refine ⟨direction_eq_error h, fun found hfound => ?_⟩
    rw [direction_eq_ok_iff.2 hfound] at h
    cases h
  · rintro ⟨rfl, hnone⟩
    cases h : direction token with
    | ok found => exact absurd (direction_eq_ok_iff.1 h) (hnone found)
    | error reason => rw [direction_eq_error h]

/-- A placement of three arguments is refused for the first faulty one. -/
theorem placement_eq_error_iff (hargues : Argues mode rest x y facing) :
    placement mode rest = .error (kind.reason token) ↔ Faulty x y facing kind token := by
  have hne : rest.isEmpty = false := by simpa using hargues.ne_nil
  have hbind : placement mode rest = (coordinate x >>= fun n => coordinate y >>= fun m =>
      direction facing >>= fun found => .ok (.place n m found)) := by
    rw [placement, hne, argues_iff.1 hargues]
    rfl
  rw [hbind]
  simp only [bind_eq_error_iff, coordinate_eq_error_iff, coordinate_eq_ok_iff,
    direction_eq_error_iff, reduceCtorEq, and_false, exists_false, or_false]
  constructor
  · rintro (⟨hreason, hx⟩ | ⟨n, hx, ⟨hreason, hy⟩ | ⟨m, hy, hreason, hfacing⟩⟩)
    · cases kind <;> cases hreason
      exact .first hx
    · cases kind <;> cases hreason
      exact .second hx hy
    · cases kind <;> cases hreason
      exact .third hx hy hfacing
  · rintro (hx | ⟨hx, hy⟩ | ⟨hx, hy, hfacing⟩)
    · exact .inl ⟨rfl, hx⟩
    · exact .inr ⟨_, hx, .inl ⟨rfl, hy⟩⟩
    · exact .inr ⟨_, hx, .inr ⟨_, hy, rfl, hfacing⟩⟩

/-- A placement that is refused with a reason that quotes a token has three arguments. -/
theorem exists_argues_of_placement (h : placement mode rest = .error (kind.reason token)) :
    ∃ x y facing, Argues mode rest x y facing := by
  unfold placement at h
  split at h
  · cases kind <;> cases h
  · split at h
    · rename_i x y facing harguments
      exact ⟨x, y, facing, argues_iff.2 harguments⟩
    · cases kind <;> cases h

/-- A keyword is the word of no command exactly if neither look-up finds it. -/
theorem unknown_iff : (∀ command, ¬ Text.Spells (word command) keyword) ↔
    Text.upper keyword ≠ ['P', 'L', 'A', 'C', 'E'] ∧
      bareCommand? (Text.upper keyword) = none := by
  simp only [← Text.upper_eq_iff_spells (isCapital_word _), Option.eq_none_iff_forall_ne_some,
    ne_eq, bareCommand?_eq_some_iff, not_and]
  constructor
  · intro h
    exact ⟨h (.place 0 0 .north), fun command _ hword => h command hword.symm⟩
  · rintro ⟨hplace, hbare⟩ command hword
    cases command with
    | place n m found => exact hplace hword
    | move => exact hbare .move rfl hword.symm
    | left => exact hbare .left rfl hword.symm
    | right => exact hbare .right rfl hword.symm
    | report => exact hbare .report rfl hword.symm

/-- Only what is not empty and ASCII is read as far as its tokens. -/
theorem readable_of_quoting (h : Grammar.command mode text = .error (kind.reason token)) :
    text ≠ [] ∧ Ascii text := by
  unfold Grammar.command at h
  split at h
  · cases kind <;> cases h
  · rename_i hempty
    split at h
    · cases kind <;> cases h
    · rename_i hall
      exact ⟨by simpa using hempty, all_isAscii_iff.1 (by simpa using hall)⟩

/-- A text is refused with a reason that quotes a token exactly if that token offends. -/
theorem command_eq_error_iff (hne : text ≠ []) (hascii : Ascii text) :
    Grammar.command mode text = .error (kind.reason token) ↔ Offends mode text kind token := by
  have hplace : ∀ {keyword : List Char}, Text.upper keyword = ['P', 'L', 'A', 'C', 'E'] ↔
      Text.Spells (word (.place 0 0 .north)) keyword :=
    Text.upper_eq_iff_spells (isCapital_word (.place 0 0 .north))
  rw [command_eq_of_ascii mode hne hascii]
  constructor
  · obtain ⟨keyword, rest, hheads⟩ := exists_heads mode text
    rw [hheads.splitKeyword_eq]
    intro h
    dsimp only at h
    split at h
    · rename_i hword
      obtain ⟨x, y, facing, hargues⟩ := exists_argues_of_placement h
      cases rest with
      | none => exact absurd rfl hargues.ne_nil
      | some rest =>
        exact .argument hheads (hplace.1 hword) hargues ((placement_eq_error_iff hargues).1 h)
    · rename_i hword
      split at h
      · rename_i hbare
        cases kind <;> cases h
        exact .keyword hheads (unknown_iff.2 ⟨hword, hbare⟩)
      · cases kind <;> cases h
      · cases h
  · intro h
    cases h with
    | keyword hheads hunknown =>
      obtain ⟨hword, hbare⟩ := unknown_iff.1 hunknown
      rw [hheads.splitKeyword_eq]
      simp only [if_neg hword, hbare]
      rfl
    | argument hheads hword hargues hfaulty =>
      rw [hheads.splitKeyword_eq]
      simp only [if_pos (hplace.2 hword)]
      exact (placement_eq_error_iff hargues).2 hfaulty

end Grammar

/-- The reason why a line is refused is not empty and printable ASCII. It quotes a token exactly if
that token offends, and what stands behind its words is then read back as the token. So no two
reasons that quote tokens read the same unless they are of one kind and quote the same token,
whatever lines and modes they come from. -/
theorem offending_token_quoted {mode : Mode} {line : String} {malformed : Malformed}
    (h : parse mode line = .error malformed) :
    (malformed.reason.text ≠ "" ∧
        ∀ c ∈ malformed.reason.text.toList, 0x20 ≤ c.toNat ∧ c.toNat ≤ 0x7E) ∧
      (∀ (kind : Quotation) token, malformed.reason = kind.reason token ↔
        Text.trim line.toList ≠ [] ∧ (∀ c ∈ Text.trim line.toList, c.toNat < 0x80) ∧
          Grammar.Offends mode (Text.trim line.toList) kind token) ∧
      (∀ (kind : Quotation) token, malformed.reason = kind.reason token →
        ∃ quoted, malformed.reason.text = kind.words ++ quoted ∧
          Text.unquote? quoted.toList = some token) ∧
      ∀ mode' line' malformed', parse mode' line' = .error malformed' →
        ∀ (kind kind' : Quotation) token token', malformed.reason = kind.reason token →
          malformed'.reason = kind'.reason token' → kind ≠ kind' ∨ token ≠ token' →
            malformed.reason.text ≠ malformed'.reason.text := by
  obtain ⟨hcommand, -⟩ := parse_eq_error_iff.1 h
  have hreads := Grammar.reads_of_command hcommand
  refine ⟨⟨?_, ?_⟩, ?_, ?_, ?_⟩
  · intro hempty
    exact hreads.ne_nil (by rw [hempty]; rfl)
  · intro c hc
    obtain ⟨hlow, hhigh⟩ := hreads.printable c hc
    exact ⟨hlow, by omega⟩
  · intro kind token
    constructor
    · intro hreason
      rw [hreason] at hcommand
      obtain ⟨hne, hascii⟩ := Grammar.readable_of_quoting hcommand
      exact ⟨hne, hascii, (Grammar.command_eq_error_iff hne hascii).1 hcommand⟩
    · rintro ⟨hne, hascii, hoffends⟩
      have hquoting := (Grammar.command_eq_error_iff hne hascii).2 hoffends
      exact Except.error.inj (hcommand.symm.trans hquoting)
  · intro kind token hreason
    refine ⟨String.ofList (Text.quote token), ?_, ?_⟩
    · rw [hreason, Quotation.text_reason]
    · rw [String.toList_ofList, Text.unquote?_quote]
  · intro mode' line' malformed' _ kind kind' token token' hreason hreason' hdiffer hsame
    rw [hreason, hreason', Quotation.text_reason_inj] at hsame
    rcases hdiffer with hkind | htoken
    · exact hkind hsame.1
    · exact htoken hsame.2

/-- A coordinate with a quote mark and a control, and one that spells the control out. -/
theorem offending_token_quoted_control :
    parse .lenient "place 1,\t'\x7f ,north" =
        .error ⟨"place 1,\t'\x7f ,north", .invalidCoordinate ['\'', '\x7f']⟩ ∧
      (∃ quoted, "invalid coordinate \"'\\x7f\"" = "invalid coordinate " ++ quoted ∧
        Text.unquote? quoted.toList = some ['\'', '\x7f']) ∧
      (Reason.invalidCoordinate ['\'', '\x7f']).text ≠
        (Reason.invalidCoordinate ['\'', '\\', 'x', '7', 'f']).text := by
  have hlenient : parse .lenient "place 1,\t'\x7f ,north" =
      .error ⟨"place 1,\t'\x7f ,north", .invalidCoordinate ['\'', '\x7f']⟩ := rfl
  have hstrict : parse .strict "PLACE '\\x7f,0,NORTH" =
      .error ⟨"PLACE '\\x7f,0,NORTH", .invalidCoordinate ['\'', '\\', 'x', '7', 'f']⟩ := rfl
  obtain ⟨-, -, hquoted, hdiffer⟩ := offending_token_quoted hlenient
  refine ⟨hlenient, ?_, ?_⟩
  · exact hquoted .coordinate ['\'', '\x7f'] rfl
  · exact hdiffer .strict _ _ hstrict .coordinate .coordinate _ _ rfl rfl (.inr (by decide))

end Tabletop
