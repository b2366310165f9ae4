import Tabletop.Text.Blank

/-!
# Codes for emoji

The name of an emoji between two colons stands for the emoji. After the name and a dash may stand
which presentation is asked for. A name that is not known stands for itself, colons included, and so
does a colon that no other one follows before a blank.

Which names are known is the matter of the library that lays out the text. Everything that is shown
is therefore a function of its table (`EmojiTable`), and the table is not looked into here.
-/

set_option autoImplicit false

namespace Tabletop.Text

/-- A table of emoji by their names. -/
class EmojiTable where
  /-- The emoji of a name in lower case. -/
  find? : List Char → Option (List Char)

/-- A table in which few emoji have a name. -/
@[reducible]
def fewEmoji : EmojiTable where
  find? name :=
    if name = ['h', 'e', 'a', 'r', 't'] then some ['\u2764']
    else if name = ['x'] then some ['\u274C']
    else if name = ['s', 'm', 'i', 'l', 'e', 'y'] then some ['😃']
    else none

namespace FewEmoji

/-- Where this namespace is open, texts are shown with few emoji. -/
scoped instance : EmojiTable := fewEmoji

end FewEmoji

/-- The presentations that can be asked for, and the character that asks for each. -/
def presentations : List (List Char × Char) :=
  [(['-', 'e', 'm', 'o', 'j', 'i'], '\uFE0F'), (['-', 't', 'e', 'x', 't'], '\uFE0E')]

/-- The name and the presentation between two colons. -/
def splitPresentation (code : List Char) : List Char × List Char :=
  match presentations.find? fun presentation => presentation.1.isSuffixOf code with
  | some (word, mark) => (code.take (code.length - word.length), [mark])
  | none => (code, [])

/-- What stands for the text between two colons, the colons included. -/
def emojiFor [EmojiTable] (code : List Char) : List Char :=
  let (name, mark) := splitPresentation code
  match EmojiTable.find? (lower name) with
  | some found => found ++ mark
  | none => ':' :: code ++ [':']

/-- A text with the codes for emoji replaced, given what has been read since a colon, if one is
open, last first. -/
def replaceEmojiFrom [EmojiTable] : Option (List Char) → List Char → List Char
  | none, [] => []
  | some code, [] => ':' :: code.reverse
  | none, c :: cs =>
    if c = ':' then replaceEmojiFrom (some []) cs else c :: replaceEmojiFrom none cs
  | some code, c :: cs =>
    if c = ':' then emojiFor code.reverse ++ replaceEmojiFrom none cs
    else if isBlank c then ':' :: code.reverse ++ c :: replaceEmojiFrom none cs
    else replaceEmojiFrom (some (c :: code)) cs

/-- A text with the codes for emoji replaced. -/
def replaceEmoji [EmojiTable] (cs : List Char) : List Char :=
  replaceEmojiFrom none cs

end Tabletop.Text
