import Mathlib.Algebra.Group.Nat.Defs
import Tabletop.Proofs.Command.Normalised

/-!
# Positions as commands

The text of a position, as a report gives it, parts at its commas into the coordinates and the
direction (`splitOn_positionText`). It is the arguments of a placement at that position, as long as
no coordinate has more than ten digits (`written_positionText`). A written command is read
as itself in either mode (`parse_of_written`), so a report with the word of placements before it is
a line that places the robot where the report was made.
-/

set_option autoImplicit false

namespace Tabletop.Grammar

/-! ## Integers in writing -/

/-- The characters of a decimal number are digits. -/
theorem digit_of_mem_toDigits {n : Nat} {c : Char} (h : c ∈ Nat.toDigits 10 n) :
    '0' ≤ c ∧ c ≤ '9' := by
  have hdigit : c.isDigit = true := Nat.isDigit_of_mem_toDigits (by decide) (by decide) h
  simp only [Char.isDigit, Bool.and_eq_true, decide_eq_true_eq] at hdigit
  exact hdigit

/-- The decimal digits of a number are digits of a numeral if there are at most ten of them. -/
theorem digits_toDigits_iff {n : Nat} : Digits (Nat.toDigits 10 n) ↔ n < 10 ^ 10 := by
  rw [← Nat.length_toDigits_le_iff (b := 10) (by decide) (by decide)]
  constructor
  · intro h
    exact h.le_ten
  · intro h
    exact ⟨Nat.length_toDigits_pos, h, fun c => digit_of_mem_toDigits⟩

theorem toList_toString_natCast (n : Nat) : (toString (n : Int)).toList = Nat.toDigits 10 n := by
  rw [Int.toString_eq_repr]
  show n.repr.toList = _
  rw [Nat.repr_eq_ofList_toDigits, String.toList_ofList]

theorem toList_toString_negSucc (n : Nat) :
    (toString (Int.negSucc n)).toList = '-' :: Nat.toDigits 10 (n + 1) := by
  rw [Int.toString_eq_repr]
  show ("-" ++ (n + 1).repr).toList = _
  simp [String.toList_append, Nat.repr_eq_ofList_toDigits]

/-- An integer is written with digits and a minus. -/
theorem mem_toString {n : Int} {c : Char} (h : c ∈ (toString n).toList) :
    c = '-' ∨ '0' ≤ c ∧ c ≤ '9' := by
  cases n with
  | ofNat n =>
    rw [Int.ofNat_eq_natCast, toList_toString_natCast] at h
    exact .inr (digit_of_mem_toDigits h)
  | negSucc n =>
    rw [toList_toString_negSucc, List.mem_cons] at h
    exact h.imp_right digit_of_mem_toDigits

theorem bounds_of_mem_toString {n : Int} {c : Char} (h : c ∈ (toString n).toList) :
    0x2D ≤ c.toNat ∧ c.toNat ≤ 0x39 := by
  rcases mem_toString h with rfl | ⟨hlow, hhigh⟩
  · decide
  · have hlow' : 48 ≤ c.toNat := hlow
    have hhigh' : c.toNat ≤ 57 := hhigh
    omega

/-- An integer of any size is written as a plain token. -/
theorem plain_toString (n : Int) : Plain (toString n).toList := by
  intro c hc
  obtain ⟨hlow, hhigh⟩ := bounds_of_mem_toString hc
  refine ⟨by omega, by omega, ?_⟩
  rintro rfl
  exact absurd hlow (by decide)

/-- An integer of at most ten digits is written as a numeral that stands for it. -/
theorem numeral_toString {n : Int} (h : n.natAbs < 10 ^ 10) : Numeral (toString n).toList n := by
  cases n with
  | ofNat n =>
    have hnumeral := Numeral.plain (digits_toDigits_iff.2 h)
    rw [Nat.ofDigitChars_ten_toDigits] at hnumeral
    rw [Int.ofNat_eq_natCast, toList_toString_natCast]
    exact hnumeral
  | negSucc n =>
    have hnumeral := Numeral.minus (digits_toDigits_iff.2 h)
    rw [Int.natAbs_negSucc, Nat.ofDigitChars_ten_toDigits] at hnumeral
    rw [toList_toString_negSucc]
    exact hnumeral

theorem spells_self (word : List Char) : Text.Spells word word :=
  List.forall₂_same.2 fun _ _ => Or.inl rfl

/-! ## Positions -/

theorem plain_name (direction : Direction) : Plain direction.name.toList := by
  rw [toList_name]
  exact plain_of_spells_facingWord (spells_self _)

theorem toList_positionText (x y : Int) (direction : Direction) :
    (positionText x y direction).toList =
      (toString x).toList ++ ',' :: ((toString y).toList ++ ',' :: direction.name.toList) := by
  simp [positionText, String.toList_append]

/-- The commas in the text of a position are those between its parts. -/
theorem splitOn_positionText (x y : Int) (direction : Direction) :
    Text.splitOn ',' (positionText x y direction).toList =
      [(toString x).toList, (toString y).toList, direction.name.toList] :=
  arguments_strict_eq_iff.2 ⟨toList_positionText x y direction, (plain_toString x).comma_not_mem,
    (plain_toString y).comma_not_mem, (plain_name direction).comma_not_mem⟩

/-- The word of placements and a position of at most ten digits in each coordinate are a written
placement at that position. -/
theorem written_positionText {x y : Int} (direction : Direction) (hx : x.natAbs < 10 ^ 10)
    (hy : y.natAbs < 10 ^ 10) :
    Written ("PLACE " ++ positionText x y direction).toList (.place x y direction) := by
  have hwritten := Written.place (spells_self (word (.place x y direction)))
    (numeral_toString hx) (numeral_toString hy) (spells_self (facingWord direction))
  simpa [positionText, String.toList_append, toList_name, word] using hwritten

/-! ## Written commands in either mode -/

theorem Plain.ascii {cs : List Char} (h : Plain cs) : ∀ c ∈ cs, c.toNat < 0x80 :=
  fun c hc => Nat.lt_trans (h c hc).2.1 (by decide)

theorem spells_ne_nil {capitals cs : List Char} (hne : capitals ≠ [])
    (h : Text.Spells capitals cs) : cs ≠ [] := by
  rintro rfl
  cases h
  exact hne rfl

theorem word_ne_nil (command : Command) : word command ≠ [] := by
  cases command <;> exact List.cons_ne_nil _ _

theorem facingWord_ne_nil (direction : Direction) : facingWord direction ≠ [] := by
  cases direction <;> exact List.cons_ne_nil _ _

section

variable {text : List Char} {command : Command} (h : Written text command)
include h

theorem Written.ne_nil : text ≠ [] := by
  cases h with
  | bare _ hspells => exact spells_ne_nil (word_ne_nil _) hspells
  | place _ _ _ _ => simp

theorem Written.ascii : ∀ c ∈ text, c.toNat < 0x80 := by
  cases h with
  | bare _ hspells => exact (plain_of_spells_word hspells).ascii
  | place hspells hx hy hfacing =>
    intro c hc
    simp only [List.mem_append, List.mem_cons] at hc
    rcases hc with hc | rfl | hc | rfl | hc | rfl | hc
    · exact (plain_of_spells_word hspells).ascii c hc
    · decide
    · exact hx.plain_token.ascii c hc
    · decide
    · exact hy.plain_token.ascii c hc
    · decide
    · exact (plain_of_spells_facingWord hfacing).ascii c hc

/-- A written command has no blank at its start or its end. -/
theorem Written.trimmed : Text.Trimmed text := by
  cases h with
  | bare _ hspells => exact Text.Trimmed.of_forall (plain_of_spells_word hspells).isBlank
  | @place keyword xToken yToken facing x y direction hspells hx hy hfacing =>
    refine Text.Trimmed.append_cons ' ' (spells_ne_nil (word_ne_nil _) hspells) ?_ (by simp) ?_
    · intro c hc
      exact (plain_of_spells_word hspells).isBlank c (List.mem_of_mem_head? hc)
    · intro c hc
      -- the last argument is not empty, so the text ends as it does
      have hfacing' := spells_ne_nil (facingWord_ne_nil direction) hfacing
      refine (plain_of_spells_facingWord hfacing).isBlank c (List.mem_of_getLast? ?_)
      rw [List.getLast?_append, List.getLast?_cons_of_ne_nil (by simp), List.getLast?_append,
        List.getLast?_cons_of_ne_nil hfacing', List.getLast?_eq_some_getLast hfacing'] at hc
      rw [List.getLast?_eq_some_getLast hfacing']
      simpa using hc

/-- Both readings of a written command give the command. -/
theorem Written.command_eq (mode : Mode) : Grammar.command mode text = .ok command := by
  have hstrict := command_strict_eq_ok_iff.2 ⟨h.ascii, h⟩
  cases mode with
  | strict => exact hstrict
  | lenient =>
    rw [command_lenient_eq_strict h.trimmed h.ne_nil h.ascii, h.normalForm_eq]
    exact hstrict

end

end Tabletop.Grammar

namespace Tabletop

/-- A line that is a written command is read as that command. -/
theorem parse_of_written (mode : Mode) {line : String} {command : Command}
    (h : Grammar.Written line.toList command) : parse mode line = .ok command := by
  rw [parse_eq_ok_iff, h.trimmed.trim_eq]
  exact h.command_eq mode

end Tabletop
