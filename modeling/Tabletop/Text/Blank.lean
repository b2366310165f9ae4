/-!
# Blank characters

The characters that separate words: the ASCII controls from tab to carriage return and from file
separator to unit separator, the space, and the spaces and line separators beyond ASCII. A text is
trimmed of them at both ends before it is read, and a text of nothing else is a blank line.

The four separators `U+001C` to `U+001F` are blank but have no white-space property, so a number
that is trimmed of white space alone (`isWhiteSpace`) keeps them.

`trim_eq_nil_iff` says that trimming leaves nothing exactly of a text of blanks.
-/

set_option autoImplicit false

namespace Tabletop.Text

/-- The ranges of code points that hold the blank characters. -/
def blankRanges : List (Nat × Nat) :=
  [(0x09, 0x0D), (0x1C, 0x20), (0x85, 0x85), (0xA0, 0xA0), (0x1680, 0x1680), (0x2000, 0x200A),
    (0x2028, 0x2029), (0x202F, 0x202F), (0x205F, 0x205F), (0x3000, 0x3000)]

/-- A character that separates words. -/
def isBlank (c : Char) : Bool :=
  blankRanges.any fun range => range.1 ≤ c.toNat && c.toNat ≤ range.2

/-- A blank that has the white-space property: every blank but the four ASCII separators. -/
def isWhiteSpace (c : Char) : Bool :=
  isBlank c && !(0x1C ≤ c.toNat && c.toNat ≤ 0x1F)

/-- A character of the first 128. -/
def isAscii (c : Char) : Bool :=
  c.toNat < 128

/-- The text without the characters at its end that satisfy `p`. -/
def dropEndWhile (p : Char → Bool) (cs : List Char) : List Char :=
  (cs.reverse.dropWhile p).reverse

/-- The text without the blanks at its two ends. -/
def trim (cs : List Char) : List Char :=
  dropEndWhile isBlank (cs.dropWhile isBlank)

/-- The pieces of a text between the occurrences of a separator, one more than there are
separators. -/
def splitOn (sep : Char) : List Char → List (List Char)
  | [] => [[]]
  | c :: cs =>
    if c = sep then [] :: splitOn sep cs
    else
      match splitOn sep cs with
      | [] => [[c]]
      | piece :: pieces => (c :: piece) :: pieces

/-- The texts in order with a separator between neighbours. -/
def join (sep : String) (texts : List String) : String :=
  sep.intercalate texts

/-- A text in ASCII upper case: only the letters from `a` to `z` change. -/
def upper (cs : List Char) : List Char :=
  cs.map Char.toUpper

/-- A text in ASCII lower case: only the letters from `A` to `Z` change. -/
def lower (cs : List Char) : List Char :=
  cs.map Char.toLower

theorem dropWhile_eq_nil_iff_forall {p : Char → Bool} {cs : List Char} :
    cs.dropWhile p = [] ↔ ∀ c ∈ cs, p c = true := by
  induction cs with
  | nil => simp
  | cons c cs ih => by_cases h : p c <;> simp [h, ih]

theorem dropEndWhile_eq_nil_iff {p : Char → Bool} {cs : List Char} :
    dropEndWhile p cs = [] ↔ ∀ c ∈ cs, p c = true := by
  simp only [dropEndWhile, List.reverse_eq_nil_iff, dropWhile_eq_nil_iff_forall, List.mem_reverse]

theorem trim_eq_nil_iff {cs : List Char} : trim cs = [] ↔ ∀ c ∈ cs, isBlank c = true := by
  induction cs with
  | nil => simp [trim, dropEndWhile]
  | cons c cs ih =>
    by_cases h : isBlank c
    · simpa [trim, h] using ih
    · simp [trim, h, dropEndWhile_eq_nil_iff]

theorem splitOn_ne_nil (sep : Char) (cs : List Char) : splitOn sep cs ≠ [] := by
  cases cs with
  | nil => simp [splitOn]
  | cons c cs =>
    simp only [splitOn]
    split
    · simp
    · split <;> simp

end Tabletop.Text
