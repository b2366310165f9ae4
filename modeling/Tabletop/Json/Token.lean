import Tabletop.Text.Units

/-!
# Tokens of JSON text

JSON text is cut into brackets, commas, colons, quoted texts and atoms. An atom is a longest row of
the characters that words and numbers are made of; what it means is decided later. Characters are
taken one at a time (`Scan.step`), so a text is scanned by recursion on its characters.

A quoted text is collected as a row of numbers, and the halves of a pair that were written as two
codes are joined when the text ends.
-/

set_option autoImplicit false

namespace Tabletop.Json

/-- A piece of JSON text. -/
inductive Token where
  | openList
  | closeList
  | openRecord
  | closeRecord
  | comma
  | colon
  | text (string : String)
  | atom (characters : List Char)
  deriving DecidableEq, Repr

/-- A space between tokens. -/
def isSpace (c : Char) : Bool :=
  c = ' ' || c = '\t' || c = '\n' || c = '\r'

/-- A character of a word or a number. -/
def isAtomChar (c : Char) : Bool :=
  c.isAlphanum || c = '-' || c = '+' || c = '.'

/-- The token that a character is by itself. -/
def punctuation? : Char → Option Token
  | '[' => some .openList
  | ']' => some .closeList
  | '\x7b' => some .openRecord
  | '\x7d' => some .closeRecord
  | ',' => some .comma
  | ':' => some .colon
  | _ => none

/-- What the character after a backslash stands for, `u` apart. -/
def unescape? : Char → Option Char
  | '"' => some '"'
  | '\\' => some '\\'
  | '/' => some '/'
  | 'b' => some '\x08'
  | 'f' => some '\x0c'
  | 'n' => some '\n'
  | 'r' => some '\r'
  | 't' => some '\t'
  | _ => none

/-- Where a scan stands between two characters. The rows hold what was collected, last first. -/
inductive Scan where
  | between
  | inAtom (characters : List Char)
  | inText (numbers : List Nat)
  | afterBackslash (numbers : List Nat)
  | inCode (numbers : List Nat) (digits : List Char)
  deriving DecidableEq, Repr

namespace Scan

/-- The tokens that a character completes, where it stands between tokens, and the next state. -/
def start (c : Char) : Option (List Token × Scan) :=
  if isSpace c then some ([], .between)
  else if isAtomChar c then some ([], .inAtom [c])
  else if c = '"' then some ([], .inText [])
  else (punctuation? c).map fun token => ([token], .between)

/-- The tokens that a character completes, and the next state. -/
def step : Scan → Char → Option (List Token × Scan)
  | .between, c => start c
  | .inAtom characters, c =>
    if isAtomChar c then some ([], .inAtom (c :: characters))
    else (start c).map fun next => (.atom characters.reverse :: next.1, next.2)
  | .inText numbers, c =>
    if c = '"' then
      some ([.text (String.ofList (Text.ofUnits numbers.reverse))], .between)
    else if c = '\\' then some ([], .afterBackslash numbers)
    else if c.toNat < 0x20 then none
    else some ([], .inText (c.toNat :: numbers))
  | .afterBackslash numbers, c =>
    if c = 'u' then some ([], .inCode numbers [])
    else (unescape? c).map fun meant => ([], .inText (meant.toNat :: numbers))
  | .inCode numbers digits, c =>
    if digits.length < 3 then some ([], .inCode numbers (c :: digits))
    else
      (Text.ofHexDigits? (c :: digits).reverse).map fun code => ([], .inText (code :: numbers))

/-- The tokens that the end of the text completes; nothing may be cut short by it. -/
def finish : Scan → Option (List Token)
  | .between => some []
  | .inAtom characters => some [.atom characters.reverse]
  | _ => none

/-- The tokens of the rest of a text. -/
def tokens : Scan → List Char → Option (List Token)
  | scan, [] => scan.finish
  | scan, c :: cs => do
    let (done, next) ← scan.step c
    (done ++ ·) <$> next.tokens cs

end Scan

/-- The tokens of a text. -/
def tokens? (cs : List Char) : Option (List Token) :=
  Scan.between.tokens cs

end Tabletop.Json
