import Tabletop.Text.Digits

/-!
# Dates and times

A calendar date, a time of day to the microsecond, and the two together with or without a
distance from the prime meridian. A moment is written with dashes, colons and a space; the
microseconds are left out when there are none.
-/

set_option autoImplicit false

namespace Tabletop

/-- A day of the calendar. -/
structure Date where
  year : Nat
  month : Nat
  day : Nat
  deriving DecidableEq, Repr

/-- A time of day. -/
structure TimeOfDay where
  hour : Nat
  minute : Nat
  second : Nat
  microsecond : Nat
  deriving DecidableEq, Repr

/-- A date, a time of day, or both; then perhaps with minutes east of the prime meridian. -/
inductive Moment where
  | date (day : Date)
  | time (clock : TimeOfDay)
  | dateTime (day : Date) (clock : TimeOfDay) (offset : Option Int)
  deriving DecidableEq, Repr

/-- A year that the Gregorian rule gives a 29th of February. -/
def isLeapYear (year : Nat) : Bool :=
  year % 4 = 0 && (year % 100 != 0 || year % 400 = 0)

/-- The number of days of a month, none for a number that is no month. -/
def daysIn (year month : Nat) : Nat :=
  match month with
  | 1 | 3 | 5 | 7 | 8 | 10 | 12 => 31
  | 4 | 6 | 9 | 11 => 30
  | 2 => if isLeapYear year then 29 else 28
  | _ => 0

/-- A date of the calendar, from the year 1 on. -/
def Date.isValid (date : Date) : Bool :=
  1 ≤ date.year && 1 ≤ date.day && date.day ≤ daysIn date.year date.month

/-- A number in decimal digits, at least `width` of them. -/
private def padded (width n : Nat) : String :=
  String.ofList (Text.decimalDigits width n)

/-- A date as year, month and day. -/
def Date.text (date : Date) : String :=
  padded 4 date.year ++ "-" ++ padded 2 date.month ++ "-" ++ padded 2 date.day

/-- A time of day, with the microseconds if there are any. -/
def TimeOfDay.text (time : TimeOfDay) : String :=
  padded 2 time.hour ++ ":" ++ padded 2 time.minute ++ ":" ++ padded 2 time.second ++
    (if time.microsecond = 0 then "" else "." ++ padded 6 time.microsecond)

/-- A distance from the prime meridian in hours and minutes. -/
def offsetText (minutes : Int) : String :=
  (if minutes < 0 then "-" else "+") ++ padded 2 (minutes.natAbs / 60) ++ ":" ++
    padded 2 (minutes.natAbs % 60)

/-- A moment in text. -/
def Moment.text : Moment → String
  | .date day => day.text
  | .time clock => clock.text
  | .dateTime day clock none => day.text ++ " " ++ clock.text
  | .dateTime day clock (some minutes) => day.text ++ " " ++ clock.text ++ offsetText minutes

end Tabletop
