import Mathlib.Data.List.Forall2
import Tabletop.Text.Blank

/-!
# Words in any case

A text spells a word of capitals if it is that word with some of its letters small. Only the ASCII
letters have two cases here: the small letter stands thirty-two code points after its capital.

A text has a word of capitals for its upper case exactly if it spells the word
(`upper_eq_iff_spells`), so it then holds letters and nothing else (`Spells.letter`).
-/

set_option autoImplicit false

namespace Tabletop.Text

/-- A capital ASCII letter. -/
def IsCapital (c : Char) : Prop :=
  'A' ≤ c ∧ c ≤ 'Z'

instance : DecidablePred IsCapital := fun c =>
  decidable_of_iff (0x41 ≤ c.toNat ∧ c.toNat ≤ 0x5A) Iff.rfl

/-- A capital or its small letter. -/
def IsCaseOf (capital c : Char) : Prop :=
  c = capital ∨ IsCapital capital ∧ c.toNat = capital.toNat + 0x20

/-- A text that is a word but for the case of its letters. -/
def Spells (word cs : List Char) : Prop :=
  List.Forall₂ IsCaseOf word cs

/-- Small letters are not made smaller still. -/
theorem toLower_toLower (c : Char) : c.toLower.toLower = c.toLower := by
  unfold Char.toLower
  split
  · rename_i hcapital
    -- a capital is shifted past all capitals
    have hlow : 65 ≤ c.val.toNat := hcapital.1
    have hhigh : c.val.toNat ≤ 90 := hcapital.2
    have hshift : ('a'.val - 'A'.val).toNat = 32 := rfl
    rw [dif_neg]
    rintro ⟨-, hagain⟩
    have hshifted : (c.val + ('a'.val - 'A'.val)).toNat ≤ 90 := hagain
    rw [UInt32.toNat_add, hshift] at hshifted
    omega
  · rfl

theorem toNat_toUpper_of_small {c : Char} (hlow : 'a' ≤ c) (hhigh : c ≤ 'z') :
    c.toUpper.toNat + 0x20 = c.toNat := by
  have hlow' : 97 ≤ c.val.toNat := hlow
  have hhigh' : c.val.toNat ≤ 122 := hhigh
  have hupper : c.toUpper = _ := dif_pos ⟨hlow, hhigh⟩
  have hshift : ('A'.val - 'a'.val).toNat = 2 ^ 32 - 0x20 := rfl
  rw [hupper]
  -- the shift is negative in words, so the sum wraps around to the capital
  show (c.val + ('A'.val - 'a'.val)).toNat + 0x20 = c.val.toNat
  rw [UInt32.toNat_add, hshift]
  omega

theorem toUpper_of_not_small {c : Char} (h : ¬ ('a' ≤ c ∧ c ≤ 'z')) : c.toUpper = c :=
  dif_neg h

theorem isCaseOf_of_toUpper_eq {capital c : Char} (h : c.toUpper = capital) :
    IsCaseOf capital c := by
  by_cases hc : 'a' ≤ c ∧ c ≤ 'z'
  · have hshift := toNat_toUpper_of_small hc.1 hc.2
    rw [h] at hshift
    have hlow : 97 ≤ c.toNat := hc.1
    have hhigh : c.toNat ≤ 122 := hc.2
    refine Or.inr ⟨⟨?_, ?_⟩, hshift.symm⟩
    · show 65 ≤ capital.toNat
      omega
    · show capital.toNat ≤ 90
      omega
  · rw [toUpper_of_not_small hc] at h
    exact Or.inl h

theorem toUpper_eq_of_isCaseOf {capital c : Char} (hcapital : IsCapital capital)
    (h : IsCaseOf capital c) : c.toUpper = capital := by
  have hlow : 65 ≤ capital.toNat := hcapital.1
  have hhigh : capital.toNat ≤ 90 := hcapital.2
  rcases h with rfl | ⟨-, hshift⟩
  · refine toUpper_of_not_small fun hc => ?_
    have hsmall : 97 ≤ c.toNat := hc.1
    omega
  · have hsmall : 'a' ≤ c := by
      show 97 ≤ c.toNat
      omega
    have hsmall' : c ≤ 'z' := by
      show c.toNat ≤ 122
      omega
    have hupper := toNat_toUpper_of_small hsmall hsmall'
    exact Char.toNat_inj.1 (by omega)

/-- The texts with a word of capitals for their upper case are those that spell it. -/
theorem upper_eq_iff_spells {word cs : List Char} (hword : ∀ c ∈ word, IsCapital c) :
    upper cs = word ↔ Spells word cs := by
  induction cs generalizing word with
  | nil =>
    cases word with
    | nil => simp [upper, Spells]
    | cons capital word => simp [upper, Spells]
  | cons c cs ih =>
    cases word with
    | nil => simp [upper, Spells]
    | cons capital word =>
      have hrest := @ih word fun d hd => hword d (List.mem_cons_of_mem _ hd)
      simp only [upper, Spells] at hrest ⊢
      rw [List.map_cons, List.cons.injEq, List.forall₂_cons, hrest]
      constructor
      · rintro ⟨hc, hcs⟩
        exact ⟨isCaseOf_of_toUpper_eq hc, hcs⟩
      · rintro ⟨hc, hcs⟩
        exact ⟨toUpper_eq_of_isCaseOf (hword capital List.mem_cons_self) hc, hcs⟩

/-- What spells a word of capitals holds no characters before `A` or after `z`. -/
theorem Spells.letter {word cs : List Char} (hword : ∀ c ∈ word, IsCapital c)
    (h : Spells word cs) : ∀ c ∈ cs, 0x41 ≤ c.toNat ∧ c.toNat ≤ 0x7A := by
  induction h with
  | nil => simp
  | @cons capital c word cs hc _ ih =>
    have hlow : 0x41 ≤ capital.toNat := (hword capital List.mem_cons_self).1
    have hhigh : capital.toNat ≤ 0x5A := (hword capital List.mem_cons_self).2
    intro d hd
    rcases List.mem_cons.1 hd with rfl | hd
    · rcases hc with rfl | ⟨-, hshift⟩
      · omega
      · omega
    · exact ih (fun e he => hword e (List.mem_cons_of_mem _ he)) d hd

end Tabletop.Text
