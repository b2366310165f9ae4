import Tabletop.Text.Width

/-!
# Columns of a terminal

The width of a text is the sum of the widths of its characters, but for two of them. A joiner makes
one picture of the characters before and after it, so the one after it takes no columns. A picture
mark asks for the picture of the character before it, which then takes two columns instead of one.

`columns_of_printable` says that a text of printable ASCII characters is as wide as it is long.
-/

set_option autoImplicit false

namespace Tabletop.Text

/-- The character that joins its neighbours into one picture. -/
def joiner : Char := '\u200d'

/-- The character that asks for the picture of the one before it. -/
def pictureMark : Char := '\ufe0f'

/-- A character that changes the width of another. -/
def composes (c : Char) : Bool :=
  c = joiner || c = pictureMark

/-- The columns of the rest of a text, where `widens` says whether a picture mark would widen the
last character that took a column. -/
def columnsAfter : Bool → List Char → Nat
  | _, [] => 0
  | widens, c :: cs =>
    if c = joiner then
      match cs with
      | [] => 0
      | _ :: rest => columnsAfter widens rest
    else if c = pictureMark then (if widens then 1 else 0) + columnsAfter false cs
    else
      let width := charColumns c
      width + columnsAfter (if width = 0 then widens else hasPicture c) cs

/-- The number of columns a text takes. -/
def columns (cs : List Char) : Nat :=
  columnsAfter false cs

/-- The sum of the widths of some characters. -/
def totalColumns : List Char → Nat
  | [] => 0
  | c :: cs => charColumns c + totalColumns cs

theorem columnsAfter_cons (widens : Bool) {c : Char} (cs : List Char) (h : composes c = false) :
    columnsAfter widens (c :: cs) =
      charColumns c + columnsAfter (if charColumns c = 0 then widens else hasPicture c) cs := by
  simp only [composes, Bool.or_eq_false_iff, decide_eq_false_iff_not] at h
  rw [columnsAfter.eq_def]
  simp only [h.1, h.2, if_false]

theorem columnsAfter_of_simple {cs : List Char} (widens : Bool)
    (simple : ∀ c ∈ cs, composes c = false) : columnsAfter widens cs = totalColumns cs := by
  induction cs generalizing widens with
  | nil => rfl
  | cons c cs ih =>
    obtain ⟨first, others⟩ := List.forall_mem_cons.1 simple
    rw [columnsAfter_cons widens cs first, totalColumns, ih _ others]

theorem columns_of_simple {cs : List Char} (simple : ∀ c ∈ cs, composes c = false) :
    columns cs = totalColumns cs :=
  columnsAfter_of_simple false simple

theorem columns_of_printable {cs : List Char}
    (printable : ∀ c ∈ cs, 0x20 ≤ c.toNat ∧ c.toNat < 0x7F) : columns cs = cs.length := by
  have simple : ∀ c ∈ cs, composes c = false := by
    intro c listed
    have high := (printable c listed).2
    simp only [composes, Bool.or_eq_false_iff, decide_eq_false_iff_not]
    exact ⟨fun h => absurd (h ▸ high) (by decide), fun h => absurd (h ▸ high) (by decide)⟩
  rw [columns_of_simple simple]
  clear simple
  induction cs with
  | nil => rfl
  | cons c cs ih =>
    obtain ⟨first, others⟩ := List.forall_mem_cons.1 printable
    rw [totalColumns, charColumns_of_printable first.1 first.2, ih others, List.length_cons,
      Nat.add_comm]

end Tabletop.Text
