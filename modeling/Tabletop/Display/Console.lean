import Tabletop.Text.Digits
import Tabletop.Text.Emoji
import Tabletop.Text.Wrapped

/-!
# The console

What is shown to people is put into lines of a number of columns. Five controls that would move the
cursor are taken out, and in a plain text the codes for emoji are replaced. Everything that is shown
is collected as lines, and line feeds at the end are dropped (`textOf`).

What goes to a device that is no terminal is freed of the sequences that would control one
(`withoutStyles`).
-/

set_option autoImplicit false

namespace Tabletop.Display

open Text (wrap)

/-- The number of columns of a result. -/
def resultWidth : Nat := 100

/-- A control that would move the cursor or ring. -/
def movesCursor (c : Char) : Bool :=
  c.toNat = 7 || c.toNat = 8 || c.toNat = 11 || c.toNat = 12 || c.toNat = 13

/-- A text without the controls that would move the cursor. -/
def settled (cs : List Char) : List Char :=
  cs.filter fun c => !movesCursor c

/-- A plain text as it is shown: codes for emoji replaced, controls taken out. -/
def plain [Text.EmojiTable] (text : String) : List Char :=
  settled (Text.replaceEmoji text.toList)

/-- The lines of a text whose codes stay as they are. -/
def exactLines (width : Nat) (text : String) : List (List Char) :=
  wrap width .fold (settled text.toList)

/-- The lines of a plain text. -/
def plainLines [Text.EmojiTable] (width : Nat) (text : String) : List (List Char) :=
  wrap width .fold (plain text)

/-- Lines as one text, without line feeds at its end. -/
def textOf (lines : List (List Char)) : String :=
  String.ofList
    (Text.dropEndWhile (· = '\n') (lines.flatMap fun line => line ++ ['\n']))

/-- A parameter of a sequence for a terminal: a digit or one of a few signs. -/
def isParameter (c : Char) : Bool :=
  0x30 ≤ c.toNat && c.toNat ≤ 0x3F

/-- A sign between the parameters and the end of a sequence for a terminal. -/
def isIntermediate (c : Char) : Bool :=
  0x20 ≤ c.toNat && c.toNat ≤ 0x2F

/-- The end of a sequence for a terminal: a letter or one of a few signs. -/
def endsSequence (c : Char) : Bool :=
  0x40 ≤ c.toNat && c.toNat ≤ 0x7E

/-- What follows the parameters and the signs after them. -/
def afterParameters (cs : List Char) : List Char :=
  (cs.dropWhile isParameter).dropWhile isIntermediate

theorem length_afterParameters_le (cs : List Char) : (afterParameters cs).length ≤ cs.length :=
  ((List.dropWhile_sublist isIntermediate).trans (List.dropWhile_sublist isParameter)).length_le

/-- A text without the sequences that would control a terminal: an escape and an opening bracket,
parameters, and an end. -/
def withoutStyles : List Char → List Char
  | '\x1b' :: '[' :: cs =>
    match _h : afterParameters cs with
    | [] => '\x1b' :: withoutStyles ('[' :: cs)
    | c :: rest =>
      if endsSequence c then withoutStyles rest else '\x1b' :: withoutStyles ('[' :: cs)
  | c :: cs => c :: withoutStyles cs
  | [] => []
termination_by cs => cs.length
decreasing_by
  all_goals simp only [List.length_cons]
  · omega
  · have shorter := length_afterParameters_le cs
    simp only [_h, List.length_cons] at shorter
    omega
  · omega
  · omega

/-- A text on a line of its own, for a device that is no terminal. -/
def echo (text : String) : String :=
  String.ofList (withoutStyles text.toList) ++ "\n"

end Tabletop.Display
