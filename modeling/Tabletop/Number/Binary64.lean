import Tabletop.Number.Rounding
import Tabletop.Text.Digits

/-!
# Binary floating-point numbers of 64 bits

A finite number is a significand times a power of two, with the sign kept apart so that zero has
two signs. No arithmetic of the machine is used: a decimal is rounded by exact division
(`ofDecimal`), and whether a number is whole is read off its significand (`whole?`).
-/

set_option autoImplicit false

namespace Tabletop

/-- A binary floating-point number: a sign with `significand * 2 ^ exponent`, an infinity, or no
number. -/
inductive Binary64 where
  | finite (negative : Bool) (significand : Nat) (exponent : Int)
  | infinite (negative : Bool)
  | nan
  deriving DecidableEq, Repr

namespace Binary64

/-- A quotient divided by a power of two, as a numerator and a denominator. -/
def scaled (num den : Nat) (power : Int) : Nat × Nat :=
  if 0 ≤ power then (num, den * Nat.pow 2 power.toNat) else (num * Nat.pow 2 (-power).toNat, den)

/-- The least number with more than 53 binary digits. -/
def significandBound : Nat := 9007199254740992

/-- The finite number nearest to a quotient, or infinity where the quotient is too great. The
significand has at most 53 binary digits, and the exponent is at least -1074. -/
def ofQuotient (negative : Bool) (num den : Nat) : Binary64 :=
  let least : Int := (num.log2 : Int) - (den.log2 : Int) - 53
  let low := scaled num den least
  let exponent := max (if significandBound ≤ low.1 / low.2 then least + 1 else least) (-1074)
  let quotient := scaled num den exponent
  let significand := roundDiv quotient.1 quotient.2
  if 971 < exponent ∨ (exponent = 971 ∧ significandBound ≤ significand) then .infinite negative
  else .finite negative significand exponent

/-- The number nearest to `digits * 10 ^ power`. -/
def ofDecimal (negative : Bool) (digits : Nat) (power : Int) : Binary64 :=
  if digits = 0 then .finite negative 0 0
  else
    let places := ((Nat.toDigits 10 digits).length : Int) + power
    if 400 < places then .infinite negative
    else if places < -400 then .finite negative 0 0
    else if 0 ≤ power then ofQuotient negative (digits * Nat.pow 10 power.toNat) 1
    else ofQuotient negative digits (Nat.pow 10 (-power).toNat)

/-- The number that a decimal literal stands for: a sign, the digits before the point, those after
it, and the power of ten. -/
def ofLiteral (negative : Bool) (before after : List Char) (power : Int) : Binary64 :=
  ofDecimal negative (Text.ofDigits (before ++ after)) (power - after.length)

/-- The integer that a number equals, if it is whole. -/
def whole? : Binary64 → Option Int
  | .finite negative significand exponent =>
    let signed (n : Nat) : Int := if negative then -(n : Int) else n
    if 0 ≤ exponent then some (signed (significand * Nat.pow 2 exponent.toNat))
    else
      let den := Nat.pow 2 (-exponent).toNat
      if significand % den = 0 then some (signed (significand / den)) else none
  | .infinite _ => none
  | .nan => none

/-- A number that is neither infinite nor not a number. -/
def isFinite : Binary64 → Bool
  | .finite .. => true
  | _ => false

/-- The digits, without a point, and the power of ten of a positive finite number: the fewest
digits that read back as the number, and the nearest such. -/
def shortest (significand : Nat) (exponent : Int) : Nat × Int :=
  let num := significand * Nat.pow 2 exponent.toNat
  let den := Nat.pow 2 (-exponent).toNat
  let places : Int :=
    ((Nat.toDigits 10 (num / den)).length : Int) - (if num < den then
      ((Nat.toDigits 10 (den / num)).length : Int) else 0)
  let atPlaces (count : Nat) : Nat × Int :=
    let power := places - count
    if 0 ≤ power then (roundDiv num (den * Nat.pow 10 power.toNat), power)
    else (roundDiv (num * Nat.pow 10 (-power).toNat) den, power)
  let readsBack (decimal : Nat × Int) : Bool :=
    ofDecimal false decimal.1 decimal.2 == ofQuotient false num den
  (((List.range 18).map fun n => atPlaces (n + 1)).find? readsBack).getD (atPlaces 18)

/-- Digits without the zeros at their end, and the power of ten that makes up for them. -/
def dropZeros (digits : List Char) (power : Int) : List Char × Int :=
  let kept := (digits.reverse.dropWhile (· = '0')).reverse
  (kept, power + (digits.length - kept.length : Nat))

/-- A number in decimal: positional where the first digit stands between the fourth place after
the point and the sixteenth before it, else with an exponent of at least two digits. A whole number
keeps one zero after the point. -/
def text : Binary64 → String
  | .nan => "nan"
  | .infinite negative => if negative then "-inf" else "inf"
  | .finite negative significand exponent =>
    let sign := if negative then "-" else ""
    if significand = 0 then sign ++ "0.0"
    else
      let (number, power) := shortest significand exponent
      let (digits, power) := dropZeros (Nat.toDigits 10 number) power
      let point : Int := digits.length + power
      let body :=
        if point < -3 ∨ 16 < point then
          let rest := digits.drop 1
          let mantissa := digits.take 1 ++ (if rest.isEmpty then [] else '.' :: rest)
          let size := (point - 1).natAbs
          String.ofList mantissa ++ (if point < 1 then "e-" else "e+") ++
            String.ofList (Text.decimalDigits 2 size)
        else if point ≤ 0 then
          "0." ++ String.ofList (List.replicate (-point).toNat '0' ++ digits)
        else if digits.length ≤ point.toNat then
          String.ofList (digits ++ List.replicate (point.toNat - digits.length) '0') ++ ".0"
        else
          String.ofList (digits.take point.toNat) ++ "." ++ String.ofList (digits.drop point.toNat)
      sign ++ body

end Binary64

end Tabletop
