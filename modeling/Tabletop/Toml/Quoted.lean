import Tabletop.Text.Digits
import Tabletop.Toml.Taken

/-!
# Quoted texts in TOML

A text stands between single quotes, where every character is itself, or between double quotes,
where a backslash begins an escape. Between three quotes of either kind it may go over several
lines; a line feed right after the three is dropped, and up to two quotes may stand right before the
three that end it. Between three double quotes a backslash at the end of a line also takes away the
line end and the blanks that follow.
-/

set_option autoImplicit false

namespace Tabletop.Toml

/-- What an escape of one letter stands for. -/
def unescape? : Char → Option Char
  | 'b' => some '\x08'
  | 't' => some '\t'
  | 'n' => some '\n'
  | 'f' => some '\x0c'
  | 'r' => some '\r'
  | '"' => some '"'
  | '\\' => some '\\'
  | _ => none

/-- A character by a code of `size` hexadecimal digits. -/
def readCode (size : Nat) (text : List Char) : Except Fault (Kept (List Char) text) :=
  let digits := text.take size
  match if digits.length < size then none else Text.ofHexDigits? digits with
  | none => failAt .invalidCode text
  | some code =>
    match Text.scalar? code with
    | none => failAt .codeOfNoCharacter (text.drop size)
    | some c => .ok ⟨[c], text.drop size, by simp⟩

/-- What a backslash and blanks stand for: nothing, if a line ends after the blanks. -/
def readLineEnd (text : List Char) : Except Fault (Kept (List Char) text) :=
  match _h : skipSpaces text with
  | [] => .ok ⟨[], [], Nat.zero_le _⟩
  | '\n' :: rest =>
    have shorter : rest.length < text.length := length_lt_of_dropWhile _h
    .ok ⟨[], skipLines rest,
      Nat.le_trans (length_dropWhile_le isSpaceOrLine rest) (Nat.le_of_lt shorter)⟩
  | other => failAt .invalidEscape other

/-- What the characters after a backslash stand for. -/
def readEscape (onLines : Bool) : (text : List Char) → Except Fault (Kept (List Char) text)
  | [] => failAt .invalidEscape []
  | c :: rest =>
    if onLines && c = '\n' then
      .ok (Kept.step c ⟨[], skipLines rest, length_dropWhile_le isSpaceOrLine rest⟩)
    else if onLines && isSpace c then Kept.step c <$> readLineEnd rest
    else if c = 'u' then Kept.step c <$> readCode 4 rest
    else if c = 'U' then Kept.step c <$> readCode 8 rest
    else
      match unescape? c with
      | some meant => .ok (Kept.step c (.here [meant] rest))
      | none => failAt .invalidEscape rest

/-- The characters up to one double quote. -/
def readLine : (text : List Char) → Except Fault (Taken (List Char) text)
  | [] => failAt .unclosedText []
  | c :: rest =>
    if c = '"' then .ok (Kept.taken c (.here [] rest))
    else if c = '\\' then
      match readEscape false rest with
      | .error fault => .error fault
      | .ok kept =>
        have noLonger := kept.noLonger
        match readLine kept.rest with
        | .error fault => .error fault
        | .ok more => .ok (((more.widen noLonger).map (kept.value ++ ·)).step c)
    else if isIllegal c then failAt (.illegalCharacter c) (c :: rest)
    else
      match readLine rest with
      | .error fault => .error fault
      | .ok more => .ok ((more.map (c :: ·)).step c)
termination_by text => text.length

/-- The characters up to three double quotes. -/
def readLines : (text : List Char) → Except Fault (Taken (List Char) text)
  | [] => failAt .unclosedText []
  | '"' :: '"' :: '"' :: rest => .ok (((Kept.here [] rest).taken '"').step '"' |>.step '"')
  | c :: rest =>
    if c = '\\' then
      match readEscape true rest with
      | .error fault => .error fault
      | .ok kept =>
        have noLonger := kept.noLonger
        match readLines kept.rest with
        | .error fault => .error fault
        | .ok more => .ok (((more.widen noLonger).map (kept.value ++ ·)).step c)
    else if isIllegalOnLines c then failAt (.illegalCharacter c) (c :: rest)
    else
      match readLines rest with
      | .error fault => .error fault
      | .ok more => .ok ((more.map (c :: ·)).step c)
termination_by text => text.length

/-- The characters up to three single quotes, and the rest after them. -/
def cutThree? : List Char → Option (List Char × List Char)
  | '\'' :: '\'' :: '\'' :: rest => some ([], rest)
  | c :: rest => (cutThree? rest).map fun cut => (c :: cut.1, cut.2)
  | [] => none

/-- One or two quotes that were read as the end of a text but belong to it. -/
def readExtra (mark : Char) (text : List Char) : Kept (List Char) text :=
  match text with
  | [] => .here [] []
  | [c] => if c = mark then .step c (.here [c] []) else .here [] [c]
  | c :: d :: rest =>
    if c = mark then
      if d = mark then .step c (.step d (.here [c, d] rest)) else .step c (.here [c] (d :: rest))
    else .here [] (c :: d :: rest)

/-- A text without a line feed at its start. -/
def dropLine : List Char → List Char
  | '\n' :: rest => rest
  | text => text

theorem length_dropLine_le (text : List Char) : (dropLine text).length ≤ text.length := by
  unfold dropLine
  split <;> simp

/-- A text on one line between single quotes, after the first. -/
def readLiteralLine (text : List Char) : Except Fault (Kept String text) :=
  let body := text.takeWhile (· != '\'')
  match _h : text.dropWhile (· != '\'') with
  | [] => failAt (.unclosedLiteral "'") []
  | mark :: rest =>
    have shorter : rest.length < text.length := length_lt_of_dropWhile _h
    match refuse isIllegal body (mark :: rest) with
    | .error fault => .error fault
    | .ok _ => .ok (Taken.kept ⟨String.ofList body, rest, shorter⟩)

theorem cutThree?_length {text body rest : List Char} (h : cutThree? text = some (body, rest)) :
    rest.length ≤ text.length := by
  fun_induction cutThree? text generalizing body with
  | case1 more => simp at h; simp [h.2]; omega
  | case2 c more _ ih =>
    obtain ⟨cut, hcut, he⟩ := Option.map_eq_some_iff.1 h
    simp only [Prod.mk.injEq] at he
    have := @ih cut.1 (by rw [hcut, ← he.2])
    simp only [List.length_cons]
    omega
  | case3 => simp at h

/-- A text on several lines between three single quotes, after the first three. -/
def readLiteralLines (text : List Char) : Except Fault (Kept String text) :=
  match _h : cutThree? (dropLine text) with
  | none => failAt (.unclosedLiteral "'''") []
  | some (body, rest) =>
    have noLonger : rest.length ≤ text.length :=
      Nat.le_trans (cutThree?_length _h) (length_dropLine_le text)
    match refuse isIllegalOnLines body ('\'' :: '\'' :: '\'' :: rest) with
    | .error fault => .error fault
    | .ok _ =>
      .ok (((readExtra '\'' rest).widen noLonger).map fun extra => String.ofList (body ++ extra))

/-- A text on one line between double quotes, after the first. -/
def readBasicLine (text : List Char) : Except Fault (Kept String text) :=
  match readLine text with
  | .error fault => .error fault
  | .ok taken => .ok (taken.map String.ofList).kept

/-- A text on several lines between three double quotes, after the first three. -/
def readBasicLines (text : List Char) : Except Fault (Kept String text) :=
  match readLines (dropLine text) with
  | .error fault => .error fault
  | .ok taken =>
    have noLonger : taken.rest.length ≤ text.length :=
      Nat.le_trans (Nat.le_of_lt taken.shorter) (length_dropLine_le text)
    .ok (((readExtra '"' taken.rest).widen noLonger).map fun extra =>
      String.ofList (taken.value ++ extra))

end Tabletop.Toml
