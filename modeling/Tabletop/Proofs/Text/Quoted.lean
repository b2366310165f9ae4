import Tabletop.Proofs.Text.Digits
import Tabletop.Text.Quoted

/-!
# Quoted texts read back

A text in quotes is read back as itself, whatever characters it holds (`unquote?_quote`). Between
the quote marks a character is read from what it is written as: itself, a letter after a backslash,
or its number (`unescapeUntil?_escapeIn`). So no two texts are quoted alike (`quote_inj`).
-/

set_option autoImplicit false

namespace Tabletop.Text

variable {mark c : Char}

/-! ## One character -/

/-- A character that ends nothing and starts no escape is read as itself. -/
theorem unescapeUntil?_plain (hmark : c ≠ mark) (hbackslash : c ≠ '\\') (hfeed : c ≠ '\n')
    (rest : List Char) :
    unescapeUntil? mark (c :: rest) = (c :: ·) <$> unescapeUntil? mark rest := by
  simp [unescapeUntil?, hmark, hbackslash, hfeed]

/-- The digits that a character is numbered by are read as that character. -/
theorem scalar?_hexDigits (width : Nat) (hwidth : 0 < width) (h : c.toNat < 16 ^ width) :
    (hexDigits width c.toNat).length = width ∧
      (ofHexDigits? (hexDigits width c.toNat) >>= scalar?) = some c := by
  refine ⟨length_hexDigits hwidth h, ?_⟩
  rw [ofHexDigits?_hexDigits]
  exact scalar?_toNat c

/-- A character by its number is read as itself, with two, four or eight digits. -/
theorem unescapeUntil?_numberEscape (mark c : Char) (rest : List Char) :
    unescapeUntil? mark (numberEscape c.toNat ++ rest) =
      (c :: ·) <$> unescapeUntil? mark rest := by
  have hvalid : c.toNat < 0xD800 ∨ (0xDFFF < c.toNat ∧ c.toNat < 0x110000) := c.valid
  unfold numberEscape
  split
  · rename_i htwo
    obtain ⟨hlength, hread⟩ := scalar?_hexDigits 2 (by decide) htwo
    generalize hexDigits 2 c.toNat = digits at hlength hread
    match digits, hlength with
    | [d₁, d₂], _ =>
      simp only [List.cons_append, List.nil_append]
      rw [unescapeUntil?, hread]
      rfl
  · split
    · rename_i hfour
      obtain ⟨hlength, hread⟩ := scalar?_hexDigits 4 (by decide) hfour
      generalize hexDigits 4 c.toNat = digits at hlength hread
      match digits, hlength with
      | [d₁, d₂, d₃, d₄], _ =>
        simp only [List.cons_append, List.nil_append]
        rw [unescapeUntil?, hread]
        rfl
    · have height : c.toNat < 16 ^ 8 := by omega
      obtain ⟨hlength, hread⟩ := scalar?_hexDigits 8 (by decide) height
      generalize hexDigits 8 c.toNat = digits at hlength hread
      match digits, hlength with
      | [d₁, d₂, d₃, d₄, d₅, d₆, d₇, d₈], _ =>
        simp only [List.cons_append, List.nil_append]
        rw [unescapeUntil?, hread]
        rfl

/-- Between quote marks a character is read from what it is written as. -/
theorem unescapeUntil?_escapeIn (hmark : mark = '\'' ∨ mark = '"') (c : Char)
    (rest : List Char) :
    unescapeUntil? mark (escapeIn mark c ++ rest) = (c :: ·) <$> unescapeUntil? mark rest := by
  unfold escapeIn
  split
  · rename_i hescaped
    rw [Bool.or_eq_true, decide_eq_true_eq, decide_eq_true_eq] at hescaped
    rcases hescaped with rfl | rfl
    · rcases hmark with rfl | rfl <;> rfl
    · rfl
  · rename_i hescaped
    rw [Bool.or_eq_true, decide_eq_true_eq, decide_eq_true_eq, not_or] at hescaped
    split
    · rename_i hfeed
      rw [hfeed]
      rfl
    · rename_i hfeed
      split
      · rename_i hreturn
        rw [hreturn]
        rfl
      · split
        · rename_i htab
          rw [htab]
          rfl
        · split
          · exact unescapeUntil?_plain hescaped.1 hescaped.2 hfeed rest
          · exact unescapeUntil?_numberEscape mark c rest

/-! ## Whole texts -/

theorem quoteFor_cases (cs : List Char) : quoteFor cs = '\'' ∨ quoteFor cs = '"' := by
  unfold quoteFor
  split
  · exact .inr rfl
  · exact .inl rfl

/-- The characters between two quote marks are read up to the second one. -/
theorem unescapeUntil?_flatMap (hmark : mark = '\'' ∨ mark = '"') (cs : List Char) :
    unescapeUntil? mark (cs.flatMap (escapeIn mark) ++ [mark]) = some cs := by
  induction cs with
  | nil => rcases hmark with rfl | rfl <;> rfl
  | cons c cs ih =>
    rw [List.flatMap_cons, List.append_assoc, unescapeUntil?_escapeIn hmark, ih]
    rfl

/-- A text in quotes is read back as itself. -/
theorem unquote?_quote (cs : List Char) : unquote? (quote cs) = some cs := by
  have hread := unescapeUntil?_flatMap (quoteFor_cases cs) cs
  unfold quote
  rcases quoteFor_cases cs with hmark | hmark
  · rw [hmark] at hread ⊢
    exact hread
  · rw [hmark] at hread ⊢
    exact hread

/-- No two texts are quoted alike. -/
theorem quote_inj {cs ds : List Char} : quote cs = quote ds ↔ cs = ds := by
  constructor
  · intro h
    have hread := unquote?_quote cs
    rw [h, unquote?_quote] at hread
    exact (Option.some.inj hread).symm
  · rintro rfl
    rfl

end Tabletop.Text
