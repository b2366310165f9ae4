import Tabletop.Text.Blank
import Tabletop.Text.Digits

/-!
# Integers in decimal digits of any script

An integer is written as a sign or none and decimal digits, with single underscores between them if
wanted and white space around. The digits may be those of any script, each of which has ten in a row
of code points from its zero on.
-/

set_option autoImplicit false

namespace Tabletop.Text

/-- The code points of the zeros of all scripts. -/
def zeros : List Nat :=
  [0x30, 0x660, 0x6F0, 0x7C0, 0x966, 0x9E6, 0xA66, 0xAE6, 0xB66, 0xBE6, 0xC66, 0xCE6, 0xD66, 0xDE6,
    0xE50, 0xED0, 0xF20, 0x1040, 0x1090, 0x17E0, 0x1810, 0x1946, 0x19D0, 0x1A80, 0x1A90, 0x1B50,
    0x1BB0, 0x1C40, 0x1C50, 0xA620, 0xA8D0, 0xA900, 0xA9D0, 0xA9F0, 0xAA50, 0xABF0, 0xFF10, 0x104A0,
    0x10D30, 0x11066, 0x110F0, 0x11136, 0x111D0, 0x112F0, 0x11450, 0x114D0, 0x11650, 0x116C0,
    0x11730, 0x118E0, 0x11950, 0x11C50, 0x11D50, 0x11DA0, 0x16A60, 0x16AC0, 0x16B50, 0x1D7CE,
    0x1D7D8, 0x1D7E2, 0x1D7EC, 0x1D7F6, 0x1E140, 0x1E2F0, 0x1E950, 0x1FBF0]

/-- The value of a decimal digit of any script. -/
def decimalValue? (c : Char) : Option Nat :=
  (zeros.find? fun start => start ≤ c.toNat && c.toNat < start + 10).map fun start =>
    c.toNat - start

/-- The greatest number of digits of an integer. -/
def maxDigits : Nat := 4300

/-- The number that decimal digits stand for, with single underscores between them if wanted. -/
def natural? (cs : List Char) : Option Nat := do
  let pieces := splitOn '_' cs
  let digits ← pieces.flatten.mapM decimalValue?
  if pieces.any List.isEmpty || maxDigits < digits.length then none
  else some (digits.foldl (fun n digit => 10 * n + digit) 0)

/-- The integer that is written so. -/
def integer? (cs : List Char) : Option Int :=
  match dropEndWhile isWhiteSpace (cs.dropWhile isWhiteSpace) with
  | '-' :: rest => (natural? rest).map fun n => -(n : Int)
  | '+' :: rest => (natural? rest).map Int.ofNat
  | rest => (natural? rest).map Int.ofNat

end Tabletop.Text
