import Mathlib.Algebra.Group.Nat.Defs
import Tabletop.Text.Digits

/-!
# Hexadecimal digits

A number written in hexadecimal digits is read as itself, with any number of zeros before it
(`ofHexDigits?_hexDigits`), and has no more digits than its width asks for if it fits into them
(`length_hexDigits`).
-/

set_option autoImplicit false

namespace Tabletop.Text

theorem hexValue?_digitChar {n : Nat} (h : n < 16) : hexValue? n.digitChar = some n := by
  have hall : ∀ n : Fin 16, hexValue? n.1.digitChar = some n.1 := by decide
  exact hall ⟨n, h⟩

theorem ofHexDigits?_toDigits (n : Nat) : ofHexDigits? (Nat.toDigits 16 n) = some n := by
  induction n using Nat.strongRecOn with
  | ind n ih =>
    rcases Nat.lt_or_ge n 16 with h | h
    · rw [Nat.toDigits_of_lt_base h]
      simp [ofHexDigits?, hexValue?_digitChar h]
    · have hfront := ih (n / 16) (Nat.div_lt_self (by omega) (by decide))
      have hback := hexValue?_digitChar (Nat.mod_lt n (show 0 < 16 by decide))
      rw [ofHexDigits?] at hfront
      rw [Nat.toDigits_of_base_le (by decide) h, ofHexDigits?, List.foldlM_append, hfront]
      simp only [List.foldlM_cons, List.foldlM_nil, hback, Option.bind_eq_bind, Option.bind_some,
        Option.map_eq_map, Option.map_some, Option.pure_def, Option.some.injEq]
      omega

/-- A number written in hexadecimal digits is read as itself. -/
theorem ofHexDigits?_hexDigits (width n : Nat) : ofHexDigits? (hexDigits width n) = some n := by
  unfold hexDigits padZeros
  generalize width - (Nat.toDigits 16 n).length = zeros
  induction zeros with
  | zero => exact ofHexDigits?_toDigits n
  | succ zeros ih => exact ih

theorem length_hexDigits {width n : Nat} (hwidth : 0 < width) (h : n < 16 ^ width) :
    (hexDigits width n).length = width := by
  have hlength := (Nat.length_toDigits_le_iff (by decide) hwidth).2 h
  rw [hexDigits, padZeros, List.length_append, List.length_replicate]
  omega

end Tabletop.Text
