import Tabletop.Text.Digits
import Tabletop.Toml.Fault
import Tabletop.Value

/-!
# Numbers in TOML

Integers are written in decimal with a sign or none, or without a sign in hexadecimal, octal or
binary after `0x`, `0o` or `0b`. A point with digits after it, or an exponent, makes a decimal a
floating-point number. Between two digits there may be one underscore.

A number is read as far as it goes; what follows it is left.
-/

set_option autoImplicit false

namespace Tabletop.Toml

open Text (digitValue isDigit)

/-- The digits that follow a digit, without the underscores between them, and the rest. -/
def moreDigits (isOne : Char → Bool) : List Char → List Char × List Char
  | '_' :: c :: rest =>
    if isOne c then
      let (digits, left) := moreDigits isOne rest
      (c :: digits, left)
    else ([], '_' :: c :: rest)
  | c :: rest =>
    if isOne c then
      let (digits, left) := moreDigits isOne rest
      (c :: digits, left)
    else ([], c :: rest)
  | [] => ([], [])

/-- A row of at least one digit, and the rest. -/
def digits? (isOne : Char → Bool) : List Char → Option (List Char × List Char)
  | c :: rest =>
    if isOne c then
      let (digits, left) := moreDigits isOne rest
      some (c :: digits, left)
    else none
  | [] => none

/-- The number of a row of digits in a base. -/
def inBase (base : Nat) (digits : List Char) : Nat :=
  digits.foldl (fun n c => base * n + (Text.hexValue? c).getD 0) 0

/-- A digit of a base up to sixteen. -/
def isDigitOf (base : Nat) (c : Char) : Bool :=
  match Text.hexValue? c with
  | some value => value < base
  | none => false

/-- An integer in another base than ten. -/
def basedInteger? : List Char → Option (Value × List Char)
  | '0' :: letter :: text => do
    let base : Nat ←
      match letter with
      | 'x' => some 16
      | 'o' => some 8
      | 'b' => some 2
      | _ => none
    let (digits, rest) ← digits? (isDigitOf base) text
    some (.int (inBase base digits), rest)
  | _ => none

/-- The digits before the point of a decimal: a zero alone, or digits that start with another. -/
def wholeDigits? : List Char → Option (List Char × List Char)
  | '0' :: rest => some (['0'], rest)
  | text => digits? isDigit text

/-- The digits after a point, if there are any, and the rest. -/
def fraction (text : List Char) : List Char × List Char :=
  match text with
  | '.' :: rest => (digits? isDigit rest).getD ([], text)
  | _ => ([], text)

/-- A power of ten after the letter for it, and the rest. -/
def exponent? : List Char → Option (Int × List Char)
  | letter :: text => do
    if letter ≠ 'e' ∧ letter ≠ 'E' then none
    let (negative, unsigned) :=
      match text with
      | '-' :: rest => (true, rest)
      | '+' :: rest => (false, rest)
      | rest => (false, rest)
    let (digits, rest) ← digits? isDigit unsigned
    let size : Int := Text.ofDigits digits
    some (if negative then -size else size, rest)
  | [] => none

/-- A number without its sign. -/
def unsigned? (negative : Bool) (text : List Char) :
    Option (Except Fault (Value × List Char)) := do
  let (whole, afterWhole) ← wholeDigits? text
  let (after, afterFraction) := fraction afterWhole
  match exponent? afterFraction with
  | some (power, rest) =>
    some (.ok (.real (Binary64.ofLiteral negative whole after power), rest))
  | none =>
    if after.isEmpty then
      let size : Int := Text.ofDigits whole
      if maxDigits < whole.length then some (.error (.tooManyDigits whole.length))
      else some (.ok (.int (if negative then -size else size), afterWhole))
    else some (.ok (.real (Binary64.ofLiteral negative whole after 0), afterFraction))

/-- A number, if there is one at the start of the text. -/
def number? (text : List Char) : Option (Except Fault (Value × List Char)) :=
  match basedInteger? text with
  | some found => some (.ok found)
  | none =>
    match text with
    | '-' :: rest => unsigned? true rest
    | '+' :: rest => unsigned? false rest
    | _ => unsigned? false text

/-- An infinity or no number, with a sign or none. -/
def special? : List Char → Option (Value × List Char)
  | 'i' :: 'n' :: 'f' :: rest => some (.real (.infinite false), rest)
  | '+' :: 'i' :: 'n' :: 'f' :: rest => some (.real (.infinite false), rest)
  | '-' :: 'i' :: 'n' :: 'f' :: rest => some (.real (.infinite true), rest)
  | 'n' :: 'a' :: 'n' :: rest => some (.real .nan, rest)
  | '+' :: 'n' :: 'a' :: 'n' :: rest => some (.real .nan, rest)
  | '-' :: 'n' :: 'a' :: 'n' :: rest => some (.real .nan, rest)
  | _ => none

end Tabletop.Toml
