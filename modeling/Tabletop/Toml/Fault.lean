import Tabletop.Text.Blank
import Tabletop.Text.Quoted

/-!
# Faults in TOML

What is wrong with a document of TOML, and where. The place is kept as the number of characters that
are left of the document, and written as a line and a column counted from 1.
-/

set_option autoImplicit false

namespace Tabletop.Toml

/-- The names that lead to a value from the root of a document. -/
abbrev Key := List String

/-- A key as its names in quotes, in brackets. -/
def keyText : Key → String
  | [name] => "(" ++ Text.quoted name ++ ",)"
  | key => "(" ++ Text.join ", " (key.map Text.quoted) ++ ")"

/-- What is wrong with a document. -/
inductive Cause where
  | invalidStatement
  | unfinishedLine
  | unclosedHeader
  | unclosedListHeader
  | noEqualsSign
  | invalidKey
  | declaredTwice (key : Key)
  | immutable (key : Key)
  | redefined (key : Key)
  | overwritten
  | duplicate (name : String)
  | unclosedList
  | unclosedRecord
  | invalidEscape
  | invalidCode
  | codeOfNoCharacter
  | unclosedLiteral (mark : String)
  | invalidCharacter (c : Char)
  | illegalCharacter (c : Char)
  | unclosedText
  | invalidMoment
  | invalidValue
  deriving DecidableEq, Repr

/-- A cause in words. -/
def Cause.text : Cause → String
  | .invalidStatement => "Invalid statement"
  | .unfinishedLine => "Expected newline or end of document after a statement"
  | .unclosedHeader => "Expected ']' at the end of a table declaration"
  | .unclosedListHeader => "Expected ']]' at the end of an array declaration"
  | .noEqualsSign => "Expected '=' after a key in a key/value pair"
  | .invalidKey => "Invalid initial character for a key part"
  | .declaredTwice key => "Cannot declare " ++ keyText key ++ " twice"
  | .immutable key => "Cannot mutate immutable namespace " ++ keyText key
  | .redefined key => "Cannot redefine namespace " ++ keyText key
  | .overwritten => "Cannot overwrite a value"
  | .duplicate name => "Duplicate inline table key " ++ Text.quoted name
  | .unclosedList => "Unclosed array"
  | .unclosedRecord => "Unclosed inline table"
  | .invalidEscape => "Unescaped '\\' in a string"
  | .invalidCode => "Invalid hex value"
  | .codeOfNoCharacter => "Escaped character is not a Unicode scalar value"
  | .unclosedLiteral mark => "Expected " ++ Text.quoted mark
  | .invalidCharacter c => "Found invalid character " ++ Text.quoted c.toString
  | .illegalCharacter c => "Illegal character " ++ Text.quoted c.toString
  | .unclosedText => "Unterminated string"
  | .invalidMoment => "Invalid date or datetime"
  | .invalidValue => "Invalid value"

/-- The greatest number of digits of a decimal integer. -/
def maxDigits : Nat := 4300

/-- The levels that a list adds to those around it. -/
def listLevels : Nat := 2

/-- The levels that a record in braces adds to those around it. -/
def recordLevels : Nat := 3

/-- Why a document cannot be read. -/
inductive Fault where
  /-- The document is wrong where so many characters are left. -/
  | syntactic (cause : Cause) (left : Nat)
  /-- An integer has so many digits. -/
  | tooManyDigits (count : Nat)
  /-- Values are nested too deep. -/
  | tooDeep
  deriving DecidableEq, Repr

/-- A place in a document by line and column. -/
def placeText (document : List Char) (left : Nat) : String :=
  if left = 0 then "end of document"
  else
    let before := document.take (document.length - left)
    let column := (before.reverse.takeWhile (· != '\n')).length + 1
    "line " ++ toString (before.count '\n' + 1) ++ ", column " ++ toString column

/-- A fault of a document in words. -/
def Fault.text (document : List Char) : Fault → String
  | .syntactic cause left => cause.text ++ " (at " ++ placeText document left ++ ")"
  | .tooManyDigits count =>
    "Exceeds the limit (" ++ toString maxDigits ++ " digits) for integer string conversion: " ++
      "value has " ++ toString count ++
      " digits; use sys.set_int_max_str_digits() to increase the limit"
  | .tooDeep => "maximum recursion depth exceeded"

/-- A fault at the start of the text that is left. -/
def failAt {α : Type} (cause : Cause) (left : List Char) : Except Fault α :=
  .error (.syntactic cause left.length)

end Tabletop.Toml
