/-!
# The order of texts

Texts stand in the order of their first characters that differ, by code point; a text stands before
all longer ones that start with it.
-/

set_option autoImplicit false

namespace Tabletop.Text

/-- Whether a row of characters stands before another or is the same. -/
def isUpTo : List Char → List Char → Bool
  | [], _ => true
  | _ :: _, [] => false
  | c :: cs, d :: ds => c.toNat < d.toNat || (c.toNat = d.toNat && isUpTo cs ds)

/-- Whether a text stands before another or is the same. -/
def inOrder (first second : String) : Bool :=
  isUpTo first.toList second.toList

end Tabletop.Text
