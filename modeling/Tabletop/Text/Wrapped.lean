import Tabletop.Text.Blank
import Tabletop.Text.Cluster

/-!
# Wrapped text

A text is put into lines of a number of columns. It is parted at its line feeds, tabs are filled up
with spaces to the next multiple of eight columns, and each part is parted again between words,
where a word ends with the blanks that follow it. A word that is wider than a line is folded over
several lines, or stays on one line that is too wide. Blanks at the end of a line count for nothing
where the line is too long.
-/

set_option autoImplicit false

namespace Tabletop.Text

/-- The number of columns between tab stops. -/
def tabStop : Nat := 8

/-- The text before a tab with the spaces that stand for the tab: one, and more up to the next tab
stop. -/
def toTabStop (cs : List Char) : List Char :=
  let spaced := cs ++ [' ']
  spaced ++ List.replicate ((tabStop - columns spaced % tabStop) % tabStop) ' '

/-- The texts between tabs as one, with spaces for the tabs. -/
def joinAtTabStops : List (List Char) → List Char
  | [] => []
  | [part] => part
  | part :: rest => toTabStop part ++ joinAtTabStops rest

/-- A text with each tab replaced by spaces up to the next tab stop. -/
def expandTabs (cs : List Char) : List Char :=
  joinAtTabStops (splitOn '\t' cs)

/-- The words of a text, each with the blanks after it, the first with those before it too. A text
of blanks has no words. -/
def words : List Char → List (List Char)
  | [] => []
  | c :: cs =>
    match words cs with
    | [] => if isBlank c then [] else [c :: cs]
    | word :: rest =>
      match word with
      | [] => [c] :: rest
      | d :: _ =>
        if !isBlank c && isBlank d then
          let blanks := word.takeWhile isBlank
          (c :: blanks) :: word.dropWhile isBlank :: rest
        else (c :: word) :: rest

/-- Lines part way through: those that are finished, last first, the one that is being filled, its
columns, and whether anything stands before the next word. -/
structure Filling where
  finished : List (List Char) := []
  line : List Char := []
  used : Nat := 0
  isStarted : Bool := false

namespace Filling

/-- A new line, unless nothing stands before it. -/
def turn (filling : Filling) : Filling :=
  if filling.isStarted then
    { filling with finished := filling.line :: filling.finished, line := [] }
  else filling

/-- Some characters on the line, which then has so many columns. -/
def put (filling : Filling) (cs : List Char) (used : Nat) : Filling :=
  { filling with
    line := filling.line ++ cs
    used := used
    isStarted := filling.isStarted || !cs.isEmpty }

/-- The pieces of a word, each on a new line. -/
def putPieces (filling : Filling) (pieces : List (List Char)) : Filling :=
  pieces.foldl (fun filling piece => filling.turn.put piece (columns piece)) filling

/-- A word that goes on in the next line; one whose clusters take no columns stays on this line. -/
def putFolded (width : Nat) (filling : Filling) (word : List Char) : Filling :=
  match chop width word with
  | [] => filling.put word filling.used
  | pieces => filling.putPieces pieces

/-- The next word: on the line if it fits, else on a new one. -/
def putWord (width : Nat) (fold : Bool) (filling : Filling) (word : List Char) : Filling :=
  let bare := columns (dropEndWhile isBlank word)
  if filling.used + bare ≤ width then filling.put word (filling.used + columns word)
  else if bare ≤ width then filling.turn.put word (columns word)
  else if fold then filling.putFolded width word
  else filling.turn.put word (columns word)

/-- All lines, in order. -/
def lines (filling : Filling) : List (List Char) :=
  (filling.line :: filling.finished).reverse

end Filling

/-- The lines of a text without line feeds and tabs. -/
def fill (width : Nat) (fold : Bool) (cs : List Char) : List (List Char) :=
  match words cs with
  | [] => [cs]
  | ws => (ws.foldl (Filling.putWord width fold) {}).lines

/-- A line without as many of the blanks at its end as it has characters too many. -/
def dropExcess (width : Nat) (line : List Char) : List Char :=
  let blanks := line.length - (dropEndWhile isBlank line).length
  line.take (line.length - min blanks (line.length - width))

/-- The parts of a text between its line feeds, without tabs. -/
def parts (cs : List Char) : List (List Char) :=
  (splitOn '\n' cs).map expandTabs

/-- What happens to a word or a line that is wider than the lines may be. -/
inductive Overflow where
  /-- A word goes on in the next line. -/
  | fold
  /-- A line is cut, and three dots stand at its end. -/
  | ellipsis
  deriving DecidableEq, Repr

/-- A line cut to a number of columns if it is wider. -/
def truncate (width : Nat) (overflow : Overflow) (line : List Char) : List Char :=
  if columns line ≤ width then line
  else
    match overflow with
    | .fold => crop width line
    | .ellipsis => crop (width - 1) line ++ ['\u2026']

/-- A text in lines of a number of columns. -/
def wrap (width : Nat) (overflow : Overflow) (cs : List Char) : List (List Char) :=
  ((parts cs).flatMap (fill width (overflow = .fold))).map fun line =>
    truncate width overflow (dropExcess width line)

end Tabletop.Text
