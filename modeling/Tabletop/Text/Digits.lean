/-!
# Digits

Decimal and hexadecimal digits: the value of a digit, the number that a row of digits stands for,
and a number written with a least count of digits.
-/

set_option autoImplicit false

namespace Tabletop.Text

/-- One of the ten ASCII digits. -/
def isDigit (c : Char) : Bool :=
  '0' ≤ c && c ≤ '9'

/-- The value of an ASCII digit. -/
def digitValue (c : Char) : Nat :=
  c.toNat - '0'.toNat

/-- The number that a row of ASCII digits stands for, the first digit weighing most. -/
def ofDigits (cs : List Char) : Nat :=
  cs.foldl (fun n c => 10 * n + digitValue c) 0

/-- The value of a hexadecimal digit of either case. -/
def hexValue? (c : Char) : Option Nat :=
  if isDigit c then some (digitValue c)
  else if 'a' ≤ c ∧ c ≤ 'f' then some (c.toNat - 'a'.toNat + 10)
  else if 'A' ≤ c ∧ c ≤ 'F' then some (c.toNat - 'A'.toNat + 10)
  else none

/-- The number that a row of hexadecimal digits stands for, if all of them are digits. -/
def ofHexDigits? (cs : List Char) : Option Nat :=
  cs.foldlM (fun n c => (16 * n + ·) <$> hexValue? c) 0

/-- A text with zeros before it, up to a least length. -/
def padZeros (width : Nat) (cs : List Char) : List Char :=
  List.replicate (width - cs.length) '0' ++ cs

/-- A number in lower-case hexadecimal digits, at least `width` of them. -/
def hexDigits (width n : Nat) : List Char :=
  padZeros width (Nat.toDigits 16 n)

/-- A number in decimal digits, at least `width` of them. -/
def decimalDigits (width n : Nat) : List Char :=
  padZeros width (Nat.toDigits 10 n)

/-- A Unicode scalar value as a character. -/
def scalar? (n : Nat) : Option Char :=
  if h : n.isValidChar then some (Char.ofNatAux n h) else none

/-- Only scalar values are characters, and each is the character of its own number. -/
theorem scalar?_toNat (c : Char) : scalar? c.toNat = some c := by
  have h : c.toNat.isValidChar := c.valid
  unfold scalar?
  rw [dif_pos h]
  exact congrArg some (Char.ext rfl)

end Tabletop.Text
