import Tabletop.Text.Digits
import Tabletop.Validation.Problem

/-!
# Integers, truth values and texts out of values

An integer may be given as an integer, as a truth value, as a number without a fraction that fits
into 64 bits, or as text: a sign and decimal digits, perhaps with zeros before them, with single
underscores between them, with a point and zeros after them, and with white space around. A minus
sign may also stand after the zeros.

A truth value may be given as one, as the numbers 0 and 1, or as one of twelve words of any case.
-/

set_option autoImplicit false

namespace Tabletop

open Text

namespace IntegerText

/-- The greatest number of characters of an integer, its minus sign included. -/
def maxLength : Nat := 4300

/-- The integer that a minus sign or none and digits stand for; zeros before other digits are
refused. -/
def plain (cs : List Char) : Except ProblemCause Int :=
  let negative := cs.head? == some '-'
  let body := if negative then cs.drop 1 else cs
  let digits := body.takeWhile isDigit
  let size : Int := ofDigits digits
  if digits.isEmpty then .error .notIntegerText
  else if digits.head? == some '0' && body != ['0'] then .error .notIntegerText
  else if maxLength < (if negative then 1 else 0) + digits.length then .error .tooManyDigits
  else if digits.length < body.length then .error .notIntegerText
  else .ok (if negative then -size else size)

/-- The text without the zeros at its start and the underscores between them, given the character
before it. A zero that is the last digit stays, and a minus sign may follow the zeros. -/
def dropZerosAfter (before : Char) : List Char → Option (List Char)
  | [] => some [before]
  | c :: rest =>
    if c = '0' || c = '_' then dropZerosAfter c rest
    else if isDigit c || c = '-' then some (c :: rest)
    else if c = '.' then some (before :: c :: rest)
    else none

/-- The text, which has to start with a digit, without the zeros at its start. -/
def dropZeros : List Char → Option (List Char)
  | [] => none
  | c :: rest =>
    if c = '0' then dropZerosAfter c rest
    else if isDigit c then some (c :: rest)
    else none

/-- The text without a point and zeros at its end. -/
def dropFraction (cs : List Char) : List Char :=
  let fraction := (cs.dropWhile (· != '.')).drop 1
  if fraction.isEmpty || !fraction.all (· = '0') then cs else cs.takeWhile (· != '.')

/-- The text without single underscores inside it. -/
def dropUnderscores (cs : List Char) : Option (List Char) :=
  if (splitOn '_' cs).any List.isEmpty then none else some (cs.filter (· != '_'))

/-- The plain form of a text that has white space around it, a plus sign, zeros that count for
nothing or underscores. -/
def tidy (cs : List Char) : Option (List Char) := do
  let trimmed := dropEndWhile isWhiteSpace (cs.dropWhile isWhiteSpace)
  let afterPlus ←
    match trimmed with
    | '+' :: '-' :: _ => none
    | '+' :: rest => some rest
    | rest => some rest
  match afterPlus with
  | '-' :: rest => ('-' :: ·) <$> (dropZeros rest >>= fun cs => dropUnderscores (dropFraction cs))
  | rest => dropZeros rest >>= fun cs => dropUnderscores (dropFraction cs)

/-- The integer that a text stands for. -/
def read (cs : List Char) : Except ProblemCause Int :=
  match plain cs with
  | .error .notIntegerText =>
    match tidy cs with
    | some tidied => plain tidied
    | none => .error .notIntegerText
  | result => result

end IntegerText

/-- One more than the greatest integer of 64 bits with a sign. -/
def wordBound : Int := 9223372036854775808

/-- Whether an integer lies strictly between the bounds of 64 bits with a sign. -/
def isWord (n : Int) : Bool :=
  -wordBound < n && n < wordBound

/-- The integer that a value stands for. -/
def Value.integer : Value → Except ProblemCause Int
  | .int n => .ok n
  | .bool flag => .ok (if flag then 1 else 0)
  | .text string => IntegerText.read string.toList
  | .real number =>
    if !number.isFinite then .error .notFinite
    else
      match number.whole? with
      | none => .error .fraction
      | some n => if isWord n then .ok n else .error .tooManyDigits
  | _ => .error .notInteger

/-- The integer that a value stands for, which has to be greater than a bound. -/
def Value.above (bound : Int) (value : Value) : Except ProblemCause { n : Int // bound < n } :=
  match value.integer with
  | .error cause => .error cause
  | .ok n => if h : bound < n then .ok ⟨n, h⟩ else .error (.notAbove bound)

/-- The words for true. -/
def trueWords : List String := ["1", "on", "t", "true", "y", "yes"]

/-- The words for false. -/
def falseWords : List String := ["0", "off", "f", "false", "n", "no"]

/-- The truth value that an integer stands for. -/
def booleanOfInt (n : Int) : Except ProblemCause Bool :=
  if n = 0 then .ok false
  else if n = 1 then .ok true
  else if isWord n || n = -wordBound then .error .notBooleanWord
  else .error .notBoolean

/-- The truth value that a value stands for. -/
def Value.boolean : Value → Except ProblemCause Bool
  | .bool flag => .ok flag
  | .int n => booleanOfInt n
  | .text string =>
    let word := String.ofList (lower string.toList)
    if trueWords.contains word then .ok true
    else if falseWords.contains word then .ok false
    else .error .notBooleanWord
  | .real number =>
    match number.whole? with
    | some n => if isWord n then booleanOfInt n else .error .notBoolean
    | none => .error .notBoolean
  | _ => .error .notBoolean

/-- The text that a value is. -/
def Value.string : Value → Except ProblemCause String
  | .text string => .ok string
  | _ => .error .notText

namespace Validated

variable {α : Type}

/-- What a value by itself is read as, at its own place. -/
def ofCause : Except ProblemCause α → Validated α
  | .ok a => .ok a
  | .error cause => .fail cause

end Validated

/-- An integer, with its problem at its own place. -/
def readInteger (value : Value) : Validated Int :=
  .ofCause value.integer

/-- An integer greater than a bound, with its problem at its own place. -/
def readAbove (bound : Int) (value : Value) : Validated { n : Int // bound < n } :=
  .ofCause (value.above bound)

/-- A truth value, with its problem at its own place. -/
def readBoolean (value : Value) : Validated Bool :=
  .ofCause value.boolean

/-- A text, with its problem at its own place. -/
def readString (value : Value) : Validated String :=
  .ofCause value.string

/-- The fields of a record of any kind. -/
def readRecord : Value → Validated Fields
  | .record fields => .ok fields
  | _ => .fail .notRecord

/-- The fields of a record of a named kind. -/
def readRecordOf (kind : String) : Value → Validated Fields
  | .record fields => .ok fields
  | _ => .fail (.notRecordOf kind)

/-- What the fields of a record are read as, if the value is a record of the named kind. -/
def readFieldsOf {α : Type} (kind : String) (read : Fields → Validated α) (value : Value) :
    Validated α :=
  readRecordOf kind value >>= read

/-- Each item of a list, with its problems at its number. -/
def readItems {α : Type} (read : Value → Validated α) : Nat → List Value → Validated (List α)
  | _, [] => .ok []
  | n, item :: items =>
    match Validated.both ((read item).under (toString n)) (readItems read (n + 1) items) with
    | .ok (first, rest) => .ok (first :: rest)
    | .error problems => .error problems

/-- A list, with the problems of its items at their numbers. -/
def readList {α : Type} (read : Value → Validated α) : Value → Validated (List α)
  | .list items => readItems read 0 items
  | _ => .fail .notList

end Tabletop
