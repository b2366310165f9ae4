import Tabletop.Text.Blank

/-!
# Line ends

A line ends at a line feed. In a text whose line ends are unified, a carriage return with a line
feed after it or without one has become a line feed. Text that comes in pieces is unified piece by
piece: a carriage return at the end of a piece is held back until it is known what follows.
-/

set_option autoImplicit false

namespace Tabletop.Text

/-- A character before a piece. -/
def consPiece (c : Char) (piece : List Char × Bool) : List Char × Bool :=
  (c :: piece.1, piece.2)

/-- A piece of text with its line ends unified, and whether a carriage return at its end is held
back. -/
def unifyPiece : List Char → List Char × Bool
  | [] => ([], false)
  | '\r' :: [] => ([], true)
  | '\r' :: '\n' :: rest => consPiece '\n' (unifyPiece rest)
  | '\r' :: c :: rest => consPiece '\n' (unifyPiece (c :: rest))
  | c :: rest => consPiece c (unifyPiece rest)

/-- The line feed that a held carriage return becomes at the end of the text. -/
def heldEnd (held : Bool) : List Char :=
  if held then ['\n'] else []

/-- The carriage return that was held back, before the text that follows it. -/
def heldStart (held : Bool) : List Char :=
  if held then ['\r'] else []

/-- A whole text with its line ends unified. -/
def unify (cs : List Char) : List Char :=
  (unifyPiece cs).1 ++ heldEnd (unifyPiece cs).2

/-- The first line of a text with its line feed, and the rest; none if there is no line feed. -/
def cutLine? : List Char → Option (List Char × List Char)
  | [] => none
  | c :: rest =>
    if c = '\n' then some (['\n'], rest)
    else (cutLine? rest).map fun cut => (c :: cut.1, cut.2)

/-- A character that ends a line. -/
def isLineEnd (c : Char) : Bool :=
  c = '\r' || c = '\n'

/-- A line without the characters that end it. -/
def withoutEnd (line : List Char) : String :=
  String.ofList (dropEndWhile isLineEnd line)

theorem cutLine?_eq_some {cs line rest : List Char} (h : cutLine? cs = some (line, rest)) :
    line ≠ [] ∧ cs = line ++ rest := by
  induction cs generalizing line rest with
  | nil => simp [cutLine?] at h
  | cons c cs ih =>
    simp only [cutLine?] at h
    split at h
    · rename_i hc
      simp only [Option.some.injEq, Prod.mk.injEq] at h
      simp [← h.1, ← h.2, hc]
    · obtain ⟨cut, hcut, he⟩ := Option.map_eq_some_iff.1 h
      simp only [Prod.mk.injEq] at he
      have := ih hcut
      simp [← he.1, ← he.2, this.2]

theorem length_unifyPiece (cs : List Char) :
    (unifyPiece cs).1.length + (unifyPiece cs).2.toNat ≤ cs.length := by
  fun_induction unifyPiece cs <;> simp_all [consPiece] <;> omega

end Tabletop.Text
