/-!
# Rounding

The quotient of two natural numbers rounded to the nearest natural number, a half to the even
neighbour.
-/

set_option autoImplicit false

namespace Tabletop

/-- The quotient of two natural numbers to the nearest natural number, a half to the even one. -/
def roundDiv (num den : Nat) : Nat :=
  let quotient := num / den
  let remainder := num % den
  if 2 * remainder < den then quotient
  else if den < 2 * remainder then quotient + 1
  else if quotient % 2 = 0 then quotient
  else quotient + 1

end Tabletop
