import Tabletop.Text.Units
import Tabletop.Value

/-!
# Writing JSON

Values are written in one of two layouts. The indented one (`indented`) puts each item and each
field on a line of its own, two spaces deeper than what holds it, and writes characters beyond
ASCII as themselves. The other (`oneLine`) has no line feed at all and writes every character
outside printable ASCII as codes of four hexadecimal digits.

In both, an empty list or record is a pair of brackets, and the quote, the backslash and five
controls have escapes of two characters.
-/

set_option autoImplicit false

namespace Tabletop.Json

/-- The letter that stands after a backslash for a character. -/
def escapeLetter? : Char → Option Char
  | '"' => some '"'
  | '\\' => some '\\'
  | '\x08' => some 'b'
  | '\x0c' => some 'f'
  | '\n' => some 'n'
  | '\r' => some 'r'
  | '\t' => some 't'
  | _ => none

/-- A unit as a code of four digits. -/
def code (unit : Nat) : List Char :=
  '\\' :: 'u' :: Text.hexDigits 4 unit

/-- A character between quotes; those that are `plain` stand for themselves. -/
def escape (plain : Char → Bool) (c : Char) : List Char :=
  match escapeLetter? c with
  | some letter => ['\\', letter]
  | none => if plain c then [c] else (Text.charUnits c).flatMap code

/-- A text in quotes. -/
def quote (plain : Char → Bool) (s : String) : List Char :=
  '"' :: s.toList.flatMap (escape plain) ++ ['"']

/-- A character of printable ASCII. -/
def isPrintableAscii (c : Char) : Bool :=
  0x20 ≤ c.toNat && c.toNat ≤ 0x7E

/-- A character that is no control of the first 32. -/
def isNoControl (c : Char) : Bool :=
  0x20 ≤ c.toNat

/-- A value that is neither a list nor a record. -/
def scalarText (plain : Char → Bool) : Value → List Char
  | .null => "null".toList
  | .bool flag => (if flag then "true" else "false").toList
  | .int number => (toString number).toList
  | .real number => number.text.toList
  | .text string => quote plain string
  | .moment instant => quote plain instant.text
  | _ => []

/-- A line feed and the spaces before what stands at a depth. -/
def lineAt (depth : Nat) : List Char :=
  '\n' :: List.replicate (2 * depth) ' '

mutual

/-- A value at a depth of the indented layout. -/
def indentedAt (depth : Nat) : Value → List Char
  | .list [] => ['[', ']']
  | .list (item :: items) =>
    '[' :: lineAt (depth + 1) ++ indentedAt (depth + 1) item ++ indentedItems (depth + 1) items ++
      lineAt depth ++ [']']
  | .record [] => ['\x7b', '\x7d']
  | .record ((key, value) :: fields) =>
    '\x7b' :: lineAt (depth + 1) ++ quote isNoControl key ++ ':' :: ' ' ::
      indentedAt (depth + 1) value ++ indentedFields (depth + 1) fields ++ lineAt depth ++ ['\x7d']
  | value => scalarText isNoControl value

/-- The items of a list after the first. -/
def indentedItems (depth : Nat) : List Value → List Char
  | [] => []
  | item :: items => ',' :: lineAt depth ++ indentedAt depth item ++ indentedItems depth items

/-- The fields of a record after the first. -/
def indentedFields (depth : Nat) : List (String × Value) → List Char
  | [] => []
  | (key, value) :: fields =>
    ',' :: lineAt depth ++ quote isNoControl key ++ ':' :: ' ' :: indentedAt depth value ++
      indentedFields depth fields

end

/-- A value in the indented layout. -/
def indented (value : Value) : String :=
  String.ofList (indentedAt 0 value)

mutual

/-- A value on one line of printable ASCII. -/
def line : Value → List Char
  | .list [] => ['[', ']']
  | .list (item :: items) => '[' :: line item ++ lineItems items ++ [']']
  | .record [] => ['\x7b', '\x7d']
  | .record ((key, value) :: fields) =>
    '\x7b' :: quote isPrintableAscii key ++ ':' :: ' ' :: line value ++ lineFields fields ++
      ['\x7d']
  | value => scalarText isPrintableAscii value

/-- The items of a list after the first. -/
def lineItems : List Value → List Char
  | [] => []
  | item :: items => ',' :: ' ' :: line item ++ lineItems items

/-- The fields of a record after the first. -/
def lineFields : List (String × Value) → List Char
  | [] => []
  | (key, value) :: fields =>
    ',' :: ' ' :: quote isPrintableAscii key ++ ':' :: ' ' :: line value ++ lineFields fields

end

/-- A value on one line. -/
def oneLine (value : Value) : String :=
  String.ofList (line value)

end Tabletop.Json
