import Tabletop.Text.Digits
import Tabletop.Text.Printable

/-!
# Quoted text

A text in quotes, on one line. Single quotes stand around it, or double quotes if it holds a single
quote and no double one. The quote and the backslash are written after a backslash; line feed,
carriage return and tab as `\n`, `\r` and `\t`; any other character that does not show as itself as
`\x`, `\u` or `\U` with two, four or eight hexadecimal digits, the shortest that fits. All else
stands for itself. `unquote?` reads this back.

A row of bytes is quoted likewise, with a `b` before the quotes and each byte outside printable
ASCII as `\x` with two digits.
-/

set_option autoImplicit false

namespace Tabletop.Text

/-- The quote mark for a text: double if it holds a single quote and no double one. -/
def quoteFor (cs : List Char) : Char :=
  if cs.contains '\'' && !cs.contains '"' then '"' else '\''

/-- A character by its number, in the shortest of the three forms that holds it. -/
def numberEscape (n : Nat) : List Char :=
  if n < 0x100 then '\\' :: 'x' :: hexDigits 2 n
  else if n < 0x10000 then '\\' :: 'u' :: hexDigits 4 n
  else '\\' :: 'U' :: hexDigits 8 n

/-- A character between two quote marks. -/
def escapeIn (mark c : Char) : List Char :=
  if c = mark || c = '\\' then ['\\', c]
  else if c = '\n' then ['\\', 'n']
  else if c = '\r' then ['\\', 'r']
  else if c = '\t' then ['\\', 't']
  else if isPrintable c then [c]
  else numberEscape c.toNat

/-- A text in quotes. -/
def quote (cs : List Char) : List Char :=
  let mark := quoteFor cs
  mark :: cs.flatMap (escapeIn mark) ++ [mark]

/-- A string in quotes. -/
def quoted (s : String) : String :=
  String.ofList (quote s.toList)

/-- The characters up to a quote mark that ends the text, with the escapes read. -/
def unescapeUntil? (mark : Char) : List Char → Option (List Char)
  | '\\' :: 'n' :: rest => ('\n' :: ·) <$> unescapeUntil? mark rest
  | '\\' :: 'r' :: rest => ('\r' :: ·) <$> unescapeUntil? mark rest
  | '\\' :: 't' :: rest => ('\t' :: ·) <$> unescapeUntil? mark rest
  | '\\' :: '\\' :: rest => ('\\' :: ·) <$> unescapeUntil? mark rest
  | '\\' :: '\'' :: rest => ('\'' :: ·) <$> unescapeUntil? mark rest
  | '\\' :: '"' :: rest => ('"' :: ·) <$> unescapeUntil? mark rest
  | '\\' :: 'x' :: a :: b :: rest => do
    let c ← ofHexDigits? [a, b] >>= scalar?
    (c :: ·) <$> unescapeUntil? mark rest
  | '\\' :: 'u' :: a :: b :: c :: d :: rest => do
    let e ← ofHexDigits? [a, b, c, d] >>= scalar?
    (e :: ·) <$> unescapeUntil? mark rest
  | '\\' :: 'U' :: a :: b :: c :: d :: e :: f :: g :: h :: rest => do
    let i ← ofHexDigits? [a, b, c, d, e, f, g, h] >>= scalar?
    (i :: ·) <$> unescapeUntil? mark rest
  | [] => none
  | c :: rest =>
    if c = mark then (if rest.isEmpty then some [] else none)
    else if c = '\\' || c = '\n' then none
    else (c :: ·) <$> unescapeUntil? mark rest

/-- The text that stands between two quote marks. -/
def unquote? : List Char → Option (List Char)
  | '\'' :: rest => unescapeUntil? '\'' rest
  | '"' :: rest => unescapeUntil? '"' rest
  | _ => none

/-- A byte between two quote marks. -/
def escapeByteIn (mark : Char) (b : UInt8) : List Char :=
  if 0x20 ≤ b && b < 0x7F then escapeIn mark (Char.ofNat b.toNat)
  else if b = 0x0A || b = 0x0D || b = 0x09 then escapeIn mark (Char.ofNat b.toNat)
  else '\\' :: 'x' :: hexDigits 2 b.toNat

/-- A row of bytes in quotes. -/
def quotedBytes (bytes : List UInt8) : String :=
  let mark := if bytes.contains 0x27 && !bytes.contains 0x22 then '"' else '\''
  String.ofList ('b' :: mark :: bytes.flatMap (escapeByteIn mark) ++ [mark])

end Tabletop.Text
