import Tabletop.Command
import Tabletop.Text.Digits
import Tabletop.Text.Quoted

/-!
# The grammar of command lines

A line holds a keyword, and after the keyword `PLACE` three arguments with commas between them: two
coordinates of a sign and at most ten digits, and the name of a direction. Case does not matter,
blanks around the line neither, and only ASCII is read.

In the strict mode one space parts the keyword from the arguments and there are no other blanks. In
the lenient mode any run of blanks does, and blanks may stand around each argument.

`parse` reads a line or says by a `Reason` why it is none of these. A reason is written as one line
of printable ASCII, with the offending text in quotes.
-/

set_option autoImplicit false

namespace Tabletop

/-- How strictly the blanks of a line are read. -/
inductive Mode where
  | strict
  | lenient
  deriving DecidableEq, Repr

/-- The lenient mode where the flag is set. -/
def Mode.ofLenient (lenient : Bool) : Mode :=
  if lenient then .lenient else .strict

/-- Whether blanks are read leniently. -/
def Mode.isLenient : Mode → Bool
  | .strict => false
  | .lenient => true

/-- Why a line is no command. -/
inductive Reason where
  | empty
  | notAscii
  | unknownCommand (keyword : List Char)
  | takesNoArguments (keyword : List Char)
  | argumentsMissing
  | argumentCount
  | invalidCoordinate (token : List Char)
  | unknownDirection (token : List Char)
  deriving DecidableEq, Repr

/-- A reason in words. -/
def Reason.text : Reason → String
  | .empty => "empty command"
  | .notAscii => "non-ASCII characters in command"
  | .unknownCommand keyword => "unknown command " ++ String.ofList (Text.quote keyword)
  | .takesNoArguments keyword => String.ofList keyword ++ " takes no arguments"
  | .argumentsMissing => "PLACE expects arguments X,Y,F"
  | .argumentCount => "PLACE expects exactly three arguments X,Y,F"
  | .invalidCoordinate token => "invalid coordinate " ++ String.ofList (Text.quote token)
  | .unknownDirection token => "unknown direction " ++ String.ofList (Text.quote token)

/-- A line that is no command, without the blanks around it, and why. -/
structure Malformed where
  line : String
  reason : Reason
  deriving DecidableEq, Repr

/-- What is said about a malformed line. -/
def Malformed.message (malformed : Malformed) : String :=
  "Unknown command has been given [" ++ malformed.line ++ "]: " ++ malformed.reason.text

namespace Grammar

/-- The greatest number of digits of a coordinate. -/
def maxDigits : Nat := 10

/-- The coordinate that a token stands for: a sign or none, and one to ten digits. -/
def coordinate? (token : List Char) : Option Int :=
  let digits :=
    match token with
    | '+' :: rest => rest
    | '-' :: rest => rest
    | rest => rest
  if digits.isEmpty || maxDigits < digits.length || !digits.all Text.isDigit then none
  else
    let size : Int := Text.ofDigits digits
    some (if token.head? == some '-' then -size else size)

/-- The keyword of a trimmed line, and what follows the blanks after it if there are any. -/
def splitKeyword (mode : Mode) (text : List Char) : List Char × Option (List Char) :=
  match mode with
  | .strict =>
    let rest := text.dropWhile (· != ' ')
    (text.takeWhile (· != ' '), if rest.isEmpty then none else some (rest.drop 1))
  | .lenient =>
    let rest := text.dropWhile fun c => !Text.isBlank c
    (text.takeWhile fun c => !Text.isBlank c,
      if rest.isEmpty then none else some (rest.dropWhile Text.isBlank))

/-- The command that an upper-case keyword is by itself. -/
def bareCommand? (keyword : List Char) : Option Command :=
  if keyword = ['M', 'O', 'V', 'E'] then some .move
  else if keyword = ['L', 'E', 'F', 'T'] then some .left
  else if keyword = ['R', 'I', 'G', 'H', 'T'] then some .right
  else if keyword = ['R', 'E', 'P', 'O', 'R', 'T'] then some .report
  else none

/-- The coordinate of a token, or why it is none. -/
def coordinate (token : List Char) : Except Reason Int :=
  match coordinate? token with
  | some n => .ok n
  | none => .error (.invalidCoordinate token)

/-- The direction of a token, or why it is none. -/
def direction (token : List Char) : Except Reason Direction :=
  match Direction.ofToken? token with
  | some found => .ok found
  | none => .error (.unknownDirection token)

/-- The arguments of a placement, parted at the commas. -/
def arguments (mode : Mode) (rest : List Char) : List (List Char) :=
  match mode with
  | .strict => Text.splitOn ',' rest
  | .lenient => (Text.splitOn ',' rest).map Text.trim

/-- The placement that the text after the keyword stands for. -/
def placement (mode : Mode) (rest : List Char) : Except Reason Command :=
  if rest.isEmpty then .error .argumentsMissing
  else
    match arguments mode rest with
    | [xToken, yToken, facing] => do
      let x ← coordinate xToken
      let y ← coordinate yToken
      let facing ← direction facing
      .ok (.place x y facing)
    | _ => .error .argumentCount

/-- The command that a trimmed line stands for. -/
def command (mode : Mode) (text : List Char) : Except Reason Command :=
  if text.isEmpty then .error .empty
  else if !text.all Text.isAscii then .error .notAscii
  else
    let (keyword, rest) := splitKeyword mode text
    let keyword := Text.upper keyword
    if keyword = ['P', 'L', 'A', 'C', 'E'] then placement mode (rest.getD [])
    else
      match bareCommand? keyword, rest with
      | none, _ => .error (.unknownCommand keyword)
      | some _, some _ => .error (.takesNoArguments keyword)
      | some found, none => .ok found

end Grammar

/-- The command that a line stands for, or the trimmed line and why it is none. -/
def parse (mode : Mode) (line : String) : Except Malformed Command :=
  let text := Text.trim line.toList
  match Grammar.command mode text with
  | .ok command => .ok command
  | .error reason => .error ⟨String.ofList text, reason⟩

/-- A line of nothing but blanks. -/
def isBlankLine (line : String) : Bool :=
  (Text.trim line.toList).isEmpty

end Tabletop
