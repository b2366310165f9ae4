import Tabletop.Moment

/-!
# Dates and times in TOML

A date is written as year, month and day, a time as hours, minutes and seconds with up to six
decimals that count. Both together have a `T` or a space between them, and may be followed by the
distance from the prime meridian.

What has the form of a date but is no day of the calendar is not a moment (`NotADay`); what has not
even the form is something else.
-/

set_option autoImplicit false

namespace Tabletop.Toml

open Text (isDigit ofDigits)

/-- A number of exactly `count` digits, within bounds, and the rest. -/
def numberOf? (count least greatest : Nat) (text : List Char) : Option (Nat × List Char) :=
  let digits := text.take count
  if digits.length = count ∧ digits.all isDigit = true ∧ least ≤ ofDigits digits ∧
      ofDigits digits ≤ greatest then
    some (ofDigits digits, text.drop count)
  else none

/-- The text after a character, if it starts with it. -/
def after? (c : Char) : List Char → Option (List Char)
  | d :: rest => if d = c then some rest else none
  | [] => none

/-- The form of a date. -/
def date? (text : List Char) : Option (Date × List Char) := do
  let (year, text) ← numberOf? 4 0 9999 text
  let (month, text) ← after? '-' text >>= numberOf? 2 1 12
  let (day, text) ← after? '-' text >>= numberOf? 2 1 31
  some (⟨year, month, day⟩, text)

/-- The decimals of a second in millionths, and the rest; none are read if none are there. -/
def decimals (text : List Char) : Nat × List Char :=
  match text with
  | '.' :: rest =>
    let digits := rest.takeWhile isDigit
    if digits.isEmpty then (0, text)
    else
      let kept := digits.take 6
      (ofDigits (kept ++ List.replicate (6 - kept.length) '0'), rest.dropWhile isDigit)
  | _ => (0, text)

/-- The form of a time of day. -/
def timeOfDay? (text : List Char) : Option (TimeOfDay × List Char) := do
  let (hour, text) ← numberOf? 2 0 23 text
  let (minute, text) ← after? ':' text >>= numberOf? 2 0 59
  let (second, text) ← after? ':' text >>= numberOf? 2 0 59
  let (microsecond, text) := decimals text
  some (⟨hour, minute, second, microsecond⟩, text)

/-- The minutes east of the prime meridian, if they are given, and the rest. -/
def offset (text : List Char) : Option Int × List Char :=
  let signed (sign : Int) (text : List Char) : Option (Option Int × List Char) := do
    let (hours, text) ← numberOf? 2 0 23 text
    let (minutes, text) ← after? ':' text >>= numberOf? 2 0 59
    some (some (sign * (60 * hours + minutes)), text)
  match text with
  | 'Z' :: rest => (some 0, rest)
  | 'z' :: rest => (some 0, rest)
  | '+' :: rest => (signed 1 rest).getD (none, text)
  | '-' :: rest => (signed (-1) rest).getD (none, text)
  | _ => (none, text)

/-- The time of day after a date and what stands between them. -/
def timeAfterDate? : List Char → Option (TimeOfDay × List Char)
  | c :: rest => if c = 'T' ∨ c = 't' ∨ c = ' ' then timeOfDay? rest else none
  | [] => none

/-- Something that has the form of a date but is no day of the calendar. -/
inductive NotADay where
  | notADay

/-- A moment, if there is the form of one at the start of the text. -/
def moment? (text : List Char) : Option (Except NotADay (Moment × List Char)) :=
  match date? text with
  | some (date, rest) =>
    if !date.isValid then some (.error .notADay)
    else
      match timeAfterDate? rest with
      | some (time, rest) =>
        let (minutes, rest) := offset rest
        some (.ok (.dateTime date time minutes, rest))
      | none => some (.ok (.date date, rest))
  | none => (timeOfDay? text).map fun found => .ok (.time found.1, found.2)

end Tabletop.Toml
