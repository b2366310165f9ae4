import Tabletop.Toml.Fault

/-!
# What is taken from the start of a text

Reading takes something from the start of a text and leaves a rest. The rest is shorter than the
text (`Taken`), so that reading comes to an end, or at least no longer (`Kept`), where there may be
nothing to take.
-/

set_option autoImplicit false

namespace Tabletop.Toml

/-- Something taken from the start of a text, and the rest, which is shorter. -/
structure Taken (α : Type) (text : List Char) where
  value : α
  rest : List Char
  shorter : rest.length < text.length

/-- Something read at the start of a text, and the rest, which is no longer. -/
structure Kept (α : Type) (text : List Char) where
  value : α
  rest : List Char
  noLonger : rest.length ≤ text.length

/-- A rest that leaves out characters at the start is no longer. -/
theorem length_dropWhile_le (p : Char → Bool) (text : List Char) :
    (text.dropWhile p).length ≤ text.length :=
  (List.dropWhile_sublist p).length_le

/-- A space or a tab. -/
def isSpace (c : Char) : Bool :=
  c = ' ' || c = '\t'

/-- A space, a tab or a line feed. -/
def isSpaceOrLine (c : Char) : Bool :=
  isSpace c || c = '\n'

/-- A text without the spaces at its start. -/
def skipSpaces (text : List Char) : List Char :=
  text.dropWhile isSpace

/-- A text without the spaces and line feeds at its start. -/
def skipLines (text : List Char) : List Char :=
  text.dropWhile isSpaceOrLine

namespace Taken

variable {α : Type} {text whole : List Char}

/-- What was taken, if anything was. -/
def of? (text : List Char) (found : α × List Char) : Option (Taken α text) :=
  if h : found.2.length < text.length then some ⟨found.1, found.2, h⟩ else none

/-- What was taken after a character is taken from the text with it too. -/
def step (c : Char) (taken : Taken α text) : Taken α (c :: text) :=
  ⟨taken.value, taken.rest, Nat.lt_succ_of_lt taken.shorter⟩

/-- The rest without the spaces at its start. -/
def trimmed (taken : Taken α text) : Taken α text :=
  ⟨taken.value, skipSpaces taken.rest,
    Nat.lt_of_le_of_lt (length_dropWhile_le isSpace taken.rest) taken.shorter⟩

/-- What was taken from a text is taken from a longer one too. -/
def widen (taken : Taken α text) (h : text.length ≤ whole.length) : Taken α whole :=
  ⟨taken.value, taken.rest, Nat.lt_of_lt_of_le taken.shorter h⟩

/-- The same with the value changed. -/
def map {β : Type} (f : α → β) (taken : Taken α text) : Taken β text :=
  ⟨f taken.value, taken.rest, taken.shorter⟩

end Taken

namespace Kept

variable {α β : Type} {text whole : List Char}

/-- Something read where nothing is left out. -/
def here (value : α) (text : List Char) : Kept α text :=
  ⟨value, text, Nat.le_refl _⟩

/-- What was read after a character is read from the text with it too. -/
def step (c : Char) (kept : Kept α text) : Kept α (c :: text) :=
  ⟨kept.value, kept.rest, Nat.le_succ_of_le kept.noLonger⟩

/-- What was read after a character, which was taken too. -/
def taken (c : Char) (kept : Kept α text) : Taken α (c :: text) :=
  ⟨kept.value, kept.rest, Nat.lt_succ_of_le kept.noLonger⟩

/-- What was read from a text is read from a longer one too. -/
def widen (kept : Kept α text) (h : text.length ≤ whole.length) : Kept α whole :=
  ⟨kept.value, kept.rest, Nat.le_trans kept.noLonger h⟩

/-- The same with the value changed. -/
def map (f : α → β) (kept : Kept α text) : Kept β text :=
  ⟨f kept.value, kept.rest, kept.noLonger⟩

end Kept

/-- What was taken is read too. -/
def Taken.kept {α : Type} {text : List Char} (taken : Taken α text) : Kept α text :=
  ⟨taken.value, taken.rest, Nat.le_of_lt taken.shorter⟩

/-- A rest after a character that was not left out is shorter. -/
theorem length_lt_of_dropWhile {p : Char → Bool} {text rest : List Char} {c : Char}
    (h : text.dropWhile p = c :: rest) : rest.length < text.length := by
  have := length_dropWhile_le p text
  rw [h] at this
  exact this

/-- A control character. -/
def isControl (c : Char) : Bool :=
  c.toNat < 0x20 || c.toNat = 0x7F

/-- A character that may not stand on one line. -/
def isIllegal (c : Char) : Bool :=
  isControl c && c != '\t'

/-- A character that may not stand on several lines. -/
def isIllegalOnLines (c : Char) : Bool :=
  isIllegal c && c != '\n'

/-- A fault at the first bad character of some text, given the text after it. -/
def refuse (bad : Char → Bool) (text after : List Char) : Except Fault Unit :=
  match text.dropWhile fun c => !bad c with
  | [] => .ok ()
  | c :: rest => .error (.syntactic (.invalidCharacter c) ((c :: rest).length + after.length))

/-- A text without the comment at its start, if there is one. -/
def skipComment (text : List Char) : Except Fault (Kept Unit text) :=
  match text with
  | '#' :: body =>
    let after := body.dropWhile (· != '\n')
    match refuse isIllegal (body.takeWhile (· != '\n')) after with
    | .error fault => .error fault
    | .ok _ => .ok (Kept.step '#' ⟨(), after, length_dropWhile_le _ body⟩)
  | rest => .ok (.here () rest)

/-- A text without the spaces, line feeds and comments at its start. -/
def skipTrivia (text : List Char) : Except Fault (Kept Unit text) :=
  match _h : skipLines text with
  | '#' :: body =>
    have shorter : body.length < text.length := length_lt_of_dropWhile _h
    let after := body.dropWhile (· != '\n')
    have noLonger : after.length ≤ text.length :=
      Nat.le_of_lt (Nat.lt_of_le_of_lt (length_dropWhile_le _ body) shorter)
    match refuse isIllegal (body.takeWhile (· != '\n')) after with
    | .error fault => .error fault
    | .ok _ =>
      match skipTrivia after with
      | .error fault => .error fault
      | .ok kept => .ok (kept.widen noLonger)
  | _ => .ok ⟨(), skipLines text, length_dropWhile_le isSpaceOrLine text⟩
termination_by text.length
decreasing_by exact Nat.lt_of_le_of_lt (length_dropWhile_le _ body) shorter

end Tabletop.Toml
