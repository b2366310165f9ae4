import Tabletop.Command.Grammar
import Tabletop.Proofs.Except
import Tabletop.Proofs.Text.Blank
import Tabletop.Proofs.Text.Case

/-!
# Commands in writing

`Written` gives the written forms of each command as rules: the bare words in any case, and a
placement as its word, one space, two numerals and the word of a direction with commas between
them. A `Numeral` is a sign or none and one to ten digits.

The strict reading of a line succeeds exactly with the commands that its trimmed text is written for
(`command_strict_eq_ok_iff`), which are ASCII only; of any other line it keeps the trimmed text.
-/

set_option autoImplicit false

namespace Tabletop.Grammar

/-! ## Written forms -/

/-- One to ten decimal digits. -/
structure Digits (cs : List Char) : Prop where
  one_le : 1 ≤ cs.length
  le_ten : cs.length ≤ 10
  digit : ∀ c ∈ cs, '0' ≤ c ∧ c ≤ '9'

/-- A coordinate in writing, and the integer that it stands for. -/
inductive Numeral : List Char → Int → Prop where
  | plain {digits : List Char} : Digits digits →
      Numeral digits (Nat.ofDigitChars 10 digits 0)
  | plus {digits : List Char} : Digits digits →
      Numeral ('+' :: digits) (Nat.ofDigitChars 10 digits 0)
  | minus {digits : List Char} : Digits digits →
      Numeral ('-' :: digits) (-(Nat.ofDigitChars 10 digits 0 : Int))

/-- The word of each command in capitals. -/
def word : Command → List Char
  | .place .. => ['P', 'L', 'A', 'C', 'E']
  | .move => ['M', 'O', 'V', 'E']
  | .left => ['L', 'E', 'F', 'T']
  | .right => ['R', 'I', 'G', 'H', 'T']
  | .report => ['R', 'E', 'P', 'O', 'R', 'T']

/-- The word of each direction in capitals. -/
def facingWord : Direction → List Char
  | .north => ['N', 'O', 'R', 'T', 'H']
  | .east => ['E', 'A', 'S', 'T']
  | .south => ['S', 'O', 'U', 'T', 'H']
  | .west => ['W', 'E', 'S', 'T']

/-- The commands in their written forms: a bare word, or the word of a placement and its three
arguments. -/
inductive Written : List Char → Command → Prop where
  | bare {text : List Char} {command : Command} : command.isPlace = false →
      Text.Spells (word command) text → Written text command
  | place {keyword xToken yToken facing : List Char} {x y : Int} {direction : Direction} :
      Text.Spells (word (.place x y direction)) keyword → Numeral xToken x → Numeral yToken y →
      Text.Spells (facingWord direction) facing →
      Written (keyword ++ ' ' :: (xToken ++ ',' :: (yToken ++ ',' :: facing)))
        (.place x y direction)

/-! ## Plain tokens -/

/-- A text of visible ASCII characters without a comma, as every token of a written command is. -/
def Plain (cs : List Char) : Prop :=
  ∀ c ∈ cs, 0x20 < c.toNat ∧ c.toNat < 0x7F ∧ c ≠ ','

theorem Plain.isBlank {cs : List Char} (h : Plain cs) : ∀ c ∈ cs, Text.isBlank c = false :=
  fun c hc => Text.isBlank_of_visible (h c hc).1 (h c hc).2.1

theorem Plain.comma_not_mem {cs : List Char} (h : Plain cs) : ',' ∉ cs :=
  fun hmem => (h ',' hmem).2.2 rfl

theorem Plain.space_not_mem {cs : List Char} (h : Plain cs) : ' ' ∉ cs :=
  fun hmem => absurd (h ' ' hmem).1 (by decide)

/-! ## Coordinates -/

theorem digits_iff {cs : List Char} :
    (cs.isEmpty || decide (maxDigits < cs.length) || !cs.all Text.isDigit) = false ↔
      Digits cs := by
  simp only [Bool.or_eq_false_iff, List.isEmpty_eq_false_iff, decide_eq_false_iff_not, Nat.not_lt,
    Bool.not_eq_false', List.all_eq_true, Text.isDigit, Bool.and_eq_true, decide_eq_true_eq]
  constructor
  · rintro ⟨⟨hne, hlen⟩, hdigit⟩
    exact ⟨List.length_pos_iff.2 hne, hlen, hdigit⟩
  · rintro ⟨hpos, hlen, hdigit⟩
    exact ⟨⟨List.length_pos_iff.1 hpos, hlen⟩, hdigit⟩

/-- The check that stands before the value of a numeral lets exactly the digits pass. -/
theorem guard_eq_some_iff {cs : List Char} {value n : Int} :
    (if (cs.isEmpty || decide (maxDigits < cs.length) || !cs.all Text.isDigit) = true then none
      else some value) = some n ↔ Digits cs ∧ value = n := by
  rw [← digits_iff]
  cases cs.isEmpty || decide (maxDigits < cs.length) || !cs.all Text.isDigit with
  | true => simp
  | false => simp

theorem Digits.head?_ne {cs : List Char} (h : Digits cs) (sign : Char) (hsign : sign < '0') :
    cs.head? ≠ some sign := by
  intro hhead
  have hdigit := (h.digit sign (List.mem_of_mem_head? hhead)).1
  exact absurd hdigit (Char.not_le.2 hsign)

/-- Coordinates are read from numerals only, and as what these stand for. -/
theorem coordinate?_eq_some_iff {token : List Char} {n : Int} :
    coordinate? token = some n ↔ Numeral token n := by
  have hvalue : ∀ cs : List Char, Text.ofDigits cs = Nat.ofDigitChars 10 cs 0 := fun _ => rfl
  constructor
  · intro h
    unfold coordinate? at h
    split at h
    · obtain ⟨hdigits, rfl⟩ := guard_eq_some_iff.1 h
      exact .plus hdigits
    · obtain ⟨hdigits, rfl⟩ := guard_eq_some_iff.1 h
      exact .minus hdigits
    · -- digits have no minus before them, so the value keeps its sign
      rename_i hplus hminus
      obtain ⟨hdigits, rfl⟩ := guard_eq_some_iff.1 h
      rw [if_neg (by simpa using hdigits.head?_ne '-' (by decide)), hvalue]
      exact .plain hdigits
  · intro h
    unfold coordinate?
    cases h with
    | plus hdigits => exact guard_eq_some_iff.2 ⟨hdigits, rfl⟩
    | minus hdigits => exact guard_eq_some_iff.2 ⟨hdigits, rfl⟩
    | plain hdigits =>
      split
      · exact absurd rfl (hdigits.head?_ne '+' (by decide))
      · exact absurd rfl (hdigits.head?_ne '-' (by decide))
      · refine guard_eq_some_iff.2 ⟨hdigits, ?_⟩
        rw [if_neg (by simpa using hdigits.head?_ne '-' (by decide)), hvalue]

theorem Digits.plain {cs : List Char} (h : Digits cs) : Plain cs := by
  intro c hc
  obtain ⟨hlow, hhigh⟩ := h.digit c hc
  have hlow' : 48 ≤ c.toNat := hlow
  have hhigh' : c.toNat ≤ 57 := hhigh
  refine ⟨by omega, by omega, ?_⟩
  rintro rfl
  exact absurd hlow (by decide)

theorem Numeral.plain_token {token : List Char} {n : Int} (h : Numeral token n) :
    Plain token := by
  cases h with
  | plain h => exact h.plain
  | plus h => exact List.forall_mem_cons.2 ⟨by decide, h.plain⟩
  | minus h => exact List.forall_mem_cons.2 ⟨by decide, h.plain⟩

theorem Numeral.ne_nil {token : List Char} {n : Int} (h : Numeral token n) : token ≠ [] := by
  cases h with
  | plain h => exact List.length_pos_iff.1 h.one_le
  | plus _ => exact List.cons_ne_nil _ _
  | minus _ => exact List.cons_ne_nil _ _

/-! ## Words -/

theorem isCapital_word (command : Command) : ∀ c ∈ word command, Text.IsCapital c := by
  have hall : (word command).all (fun c => decide (Text.IsCapital c)) = true := by
    cases command <;> rfl
  simpa using hall

theorem isCapital_facingWord (direction : Direction) :
    ∀ c ∈ facingWord direction, Text.IsCapital c := by
  have hall : (facingWord direction).all (fun c => decide (Text.IsCapital c)) = true := by
    cases direction <;> rfl
  simpa using hall

theorem toList_name (direction : Direction) : direction.name.toList = facingWord direction := by
  cases direction <;> rfl

theorem plain_of_spells {capitals cs : List Char} (hword : ∀ c ∈ capitals, Text.IsCapital c)
    (h : Text.Spells capitals cs) : Plain cs := by
  intro c hc
  obtain ⟨hlow, hhigh⟩ := h.letter hword c hc
  refine ⟨by omega, by omega, ?_⟩
  rintro rfl
  exact absurd hlow (by decide)

theorem plain_of_spells_word {command : Command} {cs : List Char}
    (h : Text.Spells (word command) cs) : Plain cs :=
  plain_of_spells (isCapital_word command) h

theorem plain_of_spells_facingWord {direction : Direction} {cs : List Char}
    (h : Text.Spells (facingWord direction) cs) : Plain cs :=
  plain_of_spells (isCapital_facingWord direction) h

/-- Directions are read from their names in any case. -/
theorem ofToken?_eq_some_iff {token : List Char} {direction : Direction} :
    Direction.ofToken? token = some direction ↔ Text.Spells (facingWord direction) token := by
  have hname : ∀ name : String, Direction.ofName? name = some direction ↔
      direction.name = name := by
    intro name
    constructor
    · intro h
      simpa using List.find?_some h
    · rintro rfl
      exact Direction.ofName?_name direction
  rw [← Text.upper_eq_iff_spells (isCapital_facingWord direction), ← toList_name]
  unfold Direction.ofToken?
  constructor
  · intro h
    split at h
    · rw [(hname _).1 h, String.toList_ofList]
    · simp at h
  · intro h
    -- a token that spells a name passes the gate that stands before the names
    have hascii : token.all Text.isAscii = true := by
      rw [List.all_eq_true]
      intro c hc
      rw [toList_name, Text.upper_eq_iff_spells (isCapital_facingWord direction)] at h
      have hplain := plain_of_spells_facingWord h c hc
      simp only [Text.isAscii, decide_eq_true_eq]
      omega
    rw [if_pos hascii, hname, h, String.ofList_toList]

/-- The bare commands are read from their words. -/
theorem bareCommand?_eq_some_iff {capitals : List Char} {command : Command} :
    bareCommand? capitals = some command ↔
      command.isPlace = false ∧ word command = capitals := by
  constructor
  · intro h
    unfold bareCommand? at h
    split_ifs at h with hmove hleft hright hreport
    all_goals
      cases h
      exact ⟨rfl, Eq.symm ‹_›⟩
  · rintro ⟨hplace, rfl⟩
    cases command with
    | place x y direction => simp [Command.isPlace] at hplace
    | move => rfl
    | left => rfl
    | right => rfl
    | report => rfl

/-! ## Placements -/

theorem coordinate_eq_ok_iff {token : List Char} {n : Int} :
    coordinate token = .ok n ↔ Numeral token n := by
  rw [← coordinate?_eq_some_iff, coordinate]
  cases coordinate? token with
  | none => simp
  | some m => simp

theorem direction_eq_ok_iff {token : List Char} {found : Direction} :
    direction token = .ok found ↔ Text.Spells (facingWord found) token := by
  rw [← ofToken?_eq_some_iff, direction]
  cases Direction.ofToken? token with
  | none => simp
  | some other => simp

/-- A placement is read from exactly three arguments, two numerals and the name of a direction. -/
theorem placement_eq_ok_iff {mode : Mode} {rest : List Char} {command : Command} :
    placement mode rest = .ok command ↔
      ∃ xToken yToken facing x y found, arguments mode rest = [xToken, yToken, facing] ∧
        Numeral xToken x ∧ Numeral yToken y ∧ Text.Spells (facingWord found) facing ∧
        command = .place x y found := by
  have hnil : arguments mode [] = [[]] := by cases mode <;> rfl
  unfold placement
  constructor
  · intro h
    split at h
    · simp at h
    · split at h
      · rename_i xToken yToken facing harguments
        obtain ⟨x, hx, h⟩ := bind_eq_ok_iff.1 h
        obtain ⟨y, hy, h⟩ := bind_eq_ok_iff.1 h
        obtain ⟨found, hfound, h⟩ := bind_eq_ok_iff.1 h
        exact ⟨xToken, yToken, facing, x, y, found, harguments, coordinate_eq_ok_iff.1 hx,
          coordinate_eq_ok_iff.1 hy, direction_eq_ok_iff.1 hfound, (Except.ok.inj h).symm⟩
      · simp at h
  · rintro ⟨xToken, yToken, facing, x, y, found, harguments, hx, hy, hfound, rfl⟩
    -- three arguments need a rest, for nothing at all is parted into one empty argument
    have hne : rest.isEmpty = false := by
      cases rest with
      | nil =>
        rw [hnil] at harguments
        simp at harguments
      | cons c rest => rfl
    rw [hne, harguments]
    exact bind_eq_ok_iff.2 ⟨x, coordinate_eq_ok_iff.2 hx, bind_eq_ok_iff.2
      ⟨y, coordinate_eq_ok_iff.2 hy, bind_eq_ok_iff.2
        ⟨found, direction_eq_ok_iff.2 hfound, rfl⟩⟩⟩

/-- Three arguments parted by commas alone are those three texts with commas between them. -/
theorem arguments_strict_eq_iff {rest xToken yToken facing : List Char} :
    arguments .strict rest = [xToken, yToken, facing] ↔
      rest = xToken ++ ',' :: (yToken ++ ',' :: facing) ∧
        ',' ∉ xToken ∧ ',' ∉ yToken ∧ ',' ∉ facing := by
  show Text.splitOn ',' rest = [xToken, yToken, facing] ↔ _
  rw [Text.splitOn_eq_iff (List.cons_ne_nil _ _)]
  simp

/-- The arguments of a written placement are parted as they were put together. -/
theorem arguments_of_written {xToken yToken facing : List Char} {x y : Int} {found : Direction}
    (hx : Numeral xToken x) (hy : Numeral yToken y)
    (hfacing : Text.Spells (facingWord found) facing) :
    arguments .strict (xToken ++ ',' :: (yToken ++ ',' :: facing)) = [xToken, yToken, facing] :=
  arguments_strict_eq_iff.2 ⟨rfl, hx.plain_token.comma_not_mem, hy.plain_token.comma_not_mem,
    (plain_of_spells_facingWord hfacing).comma_not_mem⟩

/-! ## Lines -/

/-- Whether a text is ASCII, character by character. -/
theorem all_isAscii_iff {cs : List Char} :
    cs.all Text.isAscii = true ↔ ∀ c ∈ cs, c.toNat < 0x80 := by
  simp [Text.isAscii]

/-- The reading of an ASCII text goes by its keyword and what follows it. -/
theorem command_eq_of_ascii (mode : Mode) {text : List Char} (hne : text ≠ [])
    (hascii : ∀ c ∈ text, c.toNat < 0x80) :
    Grammar.command mode text =
      if Text.upper (splitKeyword mode text).1 = ['P', 'L', 'A', 'C', 'E'] then
        placement mode ((splitKeyword mode text).2.getD [])
      else
        match bareCommand? (Text.upper (splitKeyword mode text).1), (splitKeyword mode text).2 with
        | none, _ => .error (.unknownCommand (Text.upper (splitKeyword mode text).1))
        | some _, some _ => .error (.takesNoArguments (Text.upper (splitKeyword mode text).1))
        | some found, none => .ok found := by
  have hempty : ¬ text.isEmpty = true := by simpa using hne
  have hall : ¬ (!text.all Text.isAscii) = true := by simpa using all_isAscii_iff.2 hascii
  unfold Grammar.command
  exact (if_neg hempty).trans (if_neg hall)

/-- Texts that are empty or not ASCII are no commands. -/
theorem ascii_of_command_eq_ok {mode : Mode} {text : List Char} {command : Command}
    (h : Grammar.command mode text = .ok command) :
    text ≠ [] ∧ ∀ c ∈ text, c.toNat < 0x80 := by
  unfold Grammar.command at h
  split at h
  · simp at h
  · rename_i hempty
    split at h
    · simp at h
    · rename_i hall
      exact ⟨by simpa using hempty, all_isAscii_iff.1 (by simpa using hall)⟩

/-- The commands that are read from a text, by its keyword and the rest after it. -/
theorem command_eq_ok_iff {mode : Mode} {text keyword : List Char} {rest : Option (List Char)}
    (hsplit : splitKeyword mode text = (keyword, rest)) {command : Command} :
    Grammar.command mode text = .ok command ↔
      text ≠ [] ∧ (∀ c ∈ text, c.toNat < 0x80) ∧ Text.Spells (word command) keyword ∧
        (rest = none ∧ command.isPlace = false ∨ placement mode (rest.getD []) = .ok command) := by
  have hupper := @Text.upper_eq_iff_spells _ keyword (isCapital_word command)
  constructor
  · intro h
    obtain ⟨hne, hascii⟩ := ascii_of_command_eq_ok h
    simp only [command_eq_of_ascii mode hne hascii, hsplit] at h
    refine ⟨hne, hascii, ?_⟩
    split at h
    · -- what a placement reads is a placement, so the keyword is the word of the command
      rename_i hplace
      obtain ⟨-, -, -, x, y, found, -, -, -, -, rfl⟩ := placement_eq_ok_iff.1 h
      exact ⟨hupper.1 hplace, Or.inr h⟩
    · split at h
      · simp at h
      · simp at h
      · rename_i found hbare
        obtain rfl := Except.ok.inj h
        obtain ⟨hplace, hword⟩ := bareCommand?_eq_some_iff.1 hbare
        exact ⟨hupper.1 hword.symm, Or.inl ⟨rfl, hplace⟩⟩
  · rintro ⟨hne, hascii, hspells, h⟩
    simp only [command_eq_of_ascii mode hne hascii, hsplit, hupper.2 hspells]
    rcases h with ⟨rfl, hplace⟩ | h
    · have hbare := bareCommand?_eq_some_iff.2 ⟨hplace, rfl⟩
      -- the bare words are found by a look-up that does not know the word of placements
      have hother : word command ≠ ['P', 'L', 'A', 'C', 'E'] := by
        intro heq
        rw [heq] at hbare
        simp [bareCommand?] at hbare
      simp only [if_neg hother, hbare]
    · obtain ⟨-, -, -, x, y, found, -, -, -, -, rfl⟩ := placement_eq_ok_iff.1 h
      exact (if_pos rfl).trans h

theorem bne_of_space_not_mem {cs : List Char} (h : ' ' ∉ cs) : ∀ c ∈ cs, (c != ' ') = true := by
  intro c hc
  exact bne_iff_ne.2 fun hspace => h (hspace ▸ hc)

theorem splitKeyword_strict_of_not_mem {text : List Char} (h : ' ' ∉ text) :
    splitKeyword .strict text = (text, none) := by
  have hall := bne_of_space_not_mem h
  simp only [splitKeyword]
  rw [List.takeWhile_eq_self_iff.2 hall, List.dropWhile_eq_nil_iff.2 hall]
  rfl

theorem splitKeyword_strict_append {keyword : List Char} (h : ' ' ∉ keyword) (rest : List Char) :
    splitKeyword .strict (keyword ++ ' ' :: rest) = (keyword, some rest) := by
  have hall := bne_of_space_not_mem h
  have hhead : ∀ c ∈ (' ' :: rest).head?, (c != ' ') = false := by
    simp
  simp only [splitKeyword]
  rw [Text.takeWhile_append_of_head hall hhead, Text.dropWhile_append_of_head hall hhead]
  rfl

/-- The strict reading of a text succeeds exactly with the command it is written for. -/
theorem command_strict_eq_ok_iff {text : List Char} {command : Command} :
    Grammar.command .strict text = .ok command ↔
      (∀ c ∈ text, c.toNat < 0x80) ∧ Written text command := by
  constructor
  · intro h
    by_cases hspace : ' ' ∈ text
    · -- the keyword ends at the first space, and a bare word has nothing after it
      obtain ⟨keyword, rest, rfl, hkeyword⟩ := List.eq_append_cons_of_mem hspace
      obtain ⟨-, hascii, hspells, ⟨hrest, -⟩ | hplacement⟩ :=
        (command_eq_ok_iff (splitKeyword_strict_append hkeyword rest)).1 h
      · simp at hrest
      · obtain ⟨xToken, yToken, facing, x, y, found, harguments, hx, hy, hfacing, rfl⟩ :=
          placement_eq_ok_iff.1 hplacement
        obtain ⟨hrest, -⟩ := arguments_strict_eq_iff.1 harguments
        simp only [Option.getD_some] at hrest
        subst hrest
        exact ⟨hascii, .place hspells hx hy hfacing⟩
    · -- all of the text is the keyword, and a placement of nothing is refused
      obtain ⟨-, hascii, hspells, ⟨-, hplace⟩ | hplacement⟩ :=
        (command_eq_ok_iff (splitKeyword_strict_of_not_mem hspace)).1 h
      · exact ⟨hascii, .bare hplace hspells⟩
      · simp [placement] at hplacement
  · rintro ⟨hascii, h⟩
    cases h with
    | bare hplace hspells =>
      have hspace := (plain_of_spells_word hspells).space_not_mem
      have hne : text ≠ [] := by
        rintro rfl
        cases command <;> simp [Text.Spells, word] at hspells
      exact (command_eq_ok_iff (splitKeyword_strict_of_not_mem hspace)).2
        ⟨hne, hascii, hspells, Or.inl ⟨rfl, hplace⟩⟩
    | @place keyword xToken yToken facing x y found hspells hx hy hfacing =>
      have hspace := (plain_of_spells_word hspells).space_not_mem
      refine (command_eq_ok_iff (splitKeyword_strict_append hspace _)).2
        ⟨by simp, hascii, hspells, Or.inr ?_⟩
      exact placement_eq_ok_iff.2 ⟨xToken, yToken, facing, x, y, found,
        arguments_of_written hx hy hfacing, hx, hy, hfacing, rfl⟩

end Tabletop.Grammar

namespace Tabletop

theorem parse_eq_ok_iff {mode : Mode} {line : String} {command : Command} :
    parse mode line = .ok command ↔
      Grammar.command mode (Text.trim line.toList) = .ok command := by
  simp only [parse]
  cases Grammar.command mode (Text.trim line.toList) with
  | ok found => simp
  | error reason => simp

/-- A line that is refused is kept without the blanks around it. -/
theorem parse_eq_error_iff {mode : Mode} {line : String} {malformed : Malformed} :
    parse mode line = .error malformed ↔
      Grammar.command mode (Text.trim line.toList) = .error malformed.reason ∧
        malformed.line = String.ofList (Text.trim line.toList) := by
  simp only [parse]
  cases Grammar.command mode (Text.trim line.toList) with
  | ok found => simp
  | error reason =>
    obtain ⟨text, other⟩ := malformed
    simp only [Except.error.injEq, Malformed.mk.injEq]
    constructor
    · rintro ⟨rfl, rfl⟩
      exact ⟨rfl, rfl⟩
    · rintro ⟨rfl, rfl⟩
      exact ⟨rfl, rfl⟩

/-- A line is read or refused and never both, in either mode. -/
theorem parse_ok_xor_error (mode : Mode) (line : String) :
    Xor (∃ command, parse mode line = .ok command)
      (∃ malformed, parse mode line = .error malformed) := by
  cases h : parse mode line with
  | ok command => exact Or.inl ⟨⟨command, rfl⟩, by simp⟩
  | error malformed => exact Or.inr ⟨⟨malformed, rfl⟩, by simp⟩

/-- The strict reading accepts exactly the written commands. The trimmed text of a line is what is
left of it without some blanks before and after, and neither starts nor ends with a blank. The line
is read as a command if and only if that text is ASCII and written for the command; any other line
is refused, and the trimmed text is kept. -/
theorem parse_strict_iff_written (line : String) :
    let text := Text.trim line.toList
    ((∃ before after : List Char, line.toList = before ++ text ++ after ∧
        (∀ c ∈ before, Text.isBlank c = true) ∧ ∀ c ∈ after, Text.isBlank c = true) ∧
      Text.Trimmed text) ∧
    (∀ command, parse .strict line = .ok command ↔
        (∀ c ∈ text, c.toNat < 0x80) ∧ Grammar.Written text command) ∧
      ((¬ ∃ command, (∀ c ∈ text, c.toNat < 0x80) ∧ Grammar.Written text command) ↔
        ∃ reason, parse .strict line = .error ⟨String.ofList text, reason⟩) ∧
      Xor (∃ command, parse .strict line = .ok command)
        (∃ malformed, parse .strict line = .error malformed) := by
  intro text
  have hok : ∀ command, parse .strict line = .ok command ↔
      (∀ c ∈ text, c.toNat < 0x80) ∧ Grammar.Written text command := by
    intro command
    rw [parse_eq_ok_iff, Grammar.command_strict_eq_ok_iff]
  refine ⟨⟨Text.exists_blanks_append_trim line.toList, Text.trimmed_trim line.toList⟩, hok, ?_,
    parse_ok_xor_error .strict line⟩
  simp only [← hok]
  constructor
  · intro hnone
    cases h : parse .strict line with
    | ok command => exact absurd ⟨command, h⟩ hnone
    | error malformed =>
      refine ⟨malformed.reason, ?_⟩
      rw [← (parse_eq_error_iff.1 h).2]
  · rintro ⟨reason, hreason⟩ ⟨command, hcommand⟩
    rw [hreason] at hcommand
    cases hcommand

end Tabletop
