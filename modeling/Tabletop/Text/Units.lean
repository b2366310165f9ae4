import Tabletop.Text.Digits

/-!
# Sixteen-bit units

A character beyond `U+FFFF` is written as two units of sixteen bits, a high one and a low one. A
row of units that was read may hold a half without its partner; such a half becomes the
replacement character.

`ofUnits_charUnits_append` says that the units of a character read back as the character.
-/

set_option autoImplicit false

namespace Tabletop.Text

/-- A unit that begins a pair. -/
def isHighUnit (n : Nat) : Bool :=
  0xD800 ≤ n && n < 0xDC00

/-- A unit that ends a pair. -/
def isLowUnit (n : Nat) : Bool :=
  0xDC00 ≤ n && n < 0xE000

/-- The units of a character. -/
def charUnits (c : Char) : List Nat :=
  let n := c.toNat
  if n < 0x10000 then [n]
  else [0xD800 + (n - 0x10000) / 0x400, 0xDC00 + (n - 0x10000) % 0x400]

/-- A scalar value as a character, or the replacement character. -/
def scalarOrReplacement (n : Nat) : Char :=
  (scalar? n).getD '\uFFFD'

/-- The text of a row of units; a number that is no unit stands for its character. -/
def ofUnits : List Nat → List Char
  | high :: low :: rest =>
    if isHighUnit high && isLowUnit low then
      scalarOrReplacement (0x10000 + (high - 0xD800) * 0x400 + (low - 0xDC00)) :: ofUnits rest
    else scalarOrReplacement high :: ofUnits (low :: rest)
  | [n] => [scalarOrReplacement n]
  | [] => []

theorem isHighUnit_toNat (c : Char) : isHighUnit c.toNat = false := by
  have h : c.toNat < 0xD800 ∨ (0xDFFF < c.toNat ∧ c.toNat < 0x110000) := c.valid
  simp only [isHighUnit, Bool.and_eq_false_iff, decide_eq_false_iff_not]
  omega

theorem ofUnits_cons_of_not_high {n : Nat} (rest : List Nat) (h : isHighUnit n = false) :
    ofUnits (n :: rest) = scalarOrReplacement n :: ofUnits rest := by
  cases rest with
  | nil => rfl
  | cons m rest => simp [ofUnits, h]

theorem ofUnits_charUnits_append (c : Char) (rest : List Nat) :
    ofUnits (charUnits c ++ rest) = c :: ofUnits rest := by
  have valid : c.toNat < 0xD800 ∨ (0xDFFF < c.toNat ∧ c.toNat < 0x110000) := c.valid
  by_cases h : c.toNat < 0x10000
  · simp [charUnits, h, ofUnits_cons_of_not_high _ (isHighUnit_toNat c), scalarOrReplacement,
      scalar?_toNat]
  · have high : isHighUnit (0xD800 + (c.toNat - 0x10000) / 0x400) = true := by
      simp only [isHighUnit, Bool.and_eq_true, decide_eq_true_eq]
      omega
    have low : isLowUnit (0xDC00 + (c.toNat - 0x10000) % 0x400) = true := by
      simp only [isLowUnit, Bool.and_eq_true, decide_eq_true_eq]
      omega
    have number : 0x10000 + (0xD800 + (c.toNat - 0x10000) / 0x400 - 0xD800) * 0x400 +
        (0xDC00 + (c.toNat - 0x10000) % 0x400 - 0xDC00) = c.toNat := by
      omega
    simp only [charUnits, h, if_false, List.cons_append, List.nil_append, ofUnits, high, low,
      Bool.and_self, if_true, number, scalarOrReplacement, scalar?_toNat, Option.getD_some]

end Tabletop.Text
