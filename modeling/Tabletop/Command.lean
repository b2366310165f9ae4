import Tabletop.Direction

/-!
# Commands

The five commands a robot understands, and how a position is written in a report. The same text,
after the word for placing, is how a command line gives a position.

An integer is written out only if it has no more digits than the interpreter allows (`DigitLimit`),
so a position may have no text (`formatPosition`). Where it has one it is its plain text
(`formatPosition_eq_ok_iff`).
-/

set_option autoImplicit false

namespace Tabletop

/-- A command to the robot. -/
inductive Command where
  | place (x y : Int) (direction : Direction)
  | move
  | left
  | right
  | report
  deriving DecidableEq, Repr

namespace Command

/-- The word that names the kind of a command. -/
def kind : Command → String
  | place .. => "place"
  | move => "move"
  | left => "left"
  | right => "right"
  | report => "report"

/-- A command that puts the robot somewhere. -/
def isPlace : Command → Bool
  | place .. => true
  | _ => false

end Command

/-- The least limit that can be set for the digits of an integer. -/
def leastDigitLimit : Nat := 640

/-- How many digits the interpreter writes of an integer: any number of them, or no more than a
limit. -/
inductive DigitLimit where
  | unlimited
  | upTo (digits : Nat) (least : leastDigitLimit ≤ digits)

/-- An integer has more digits than a limit. -/
structure TooManyDigits where
  limit : Nat
  deriving DecidableEq, Repr

/-- What is said of an integer with too many digits. -/
def TooManyDigits.message (fault : TooManyDigits) : String :=
  "Exceeds the limit (" ++ toString fault.limit ++ " digits) for integer string conversion; " ++
    "use sys.set_int_max_str_digits() to increase the limit"

namespace DigitLimit

/-- The limit that holds unless another one is set. -/
def usual : DigitLimit := upTo 4300 (by decide)

/-- An integer has no more digits than a limit allows. Its sign does not count. -/
def Allows : DigitLimit → Int → Prop
  | unlimited, _ => True
  | upTo digits _, number => (Nat.toDigits 10 number.natAbs).length ≤ digits

/-- An integer as it is written under a limit. -/
def format : DigitLimit → Int → Except TooManyDigits String
  | unlimited, number => .ok (toString number)
  | upTo digits _, number =>
    if (Nat.toDigits 10 number.natAbs).length ≤ digits then .ok (toString number)
    else .error ⟨digits⟩

theorem format_eq_ok_iff {limit : DigitLimit} {number : Int} {text : String} :
    limit.format number = .ok text ↔ limit.Allows number ∧ toString number = text := by
  cases limit with
  | unlimited => simp [format, Allows]
  | upTo digits least =>
    simp only [format, Allows]
    by_cases hfits : (Nat.toDigits 10 number.natAbs).length ≤ digits
    · simp only [hfits, if_true, Except.ok.injEq, true_and]
    · simp only [hfits, if_false, reduceCtorEq, false_and]

end DigitLimit

/-- A square and a direction as they are written under a limit for the digits of integers. -/
def formatPosition (limit : DigitLimit) (x y : Int) (direction : Direction) :
    Except TooManyDigits String := do
  let xText ← limit.format x
  let yText ← limit.format y
  .ok (xText ++ "," ++ yText ++ "," ++ direction.name)

/-- A square and a direction, as a report gives them: with all digits of the coordinates, which is
what is written of them under every limit that allows both. -/
def positionText (x y : Int) (direction : Direction) : String :=
  toString x ++ "," ++ toString y ++ "," ++ direction.name

/-- A position is written under a limit just if the limit allows both coordinates, and then as its
text. -/
theorem formatPosition_eq_ok_iff {limit : DigitLimit} {x y : Int} {direction : Direction}
    {text : String} :
    formatPosition limit x y direction = .ok text ↔
      (limit.Allows x ∧ limit.Allows y) ∧ positionText x y direction = text := by
  unfold formatPosition
  constructor
  · intro h
    cases hx : limit.format x with
    | error fault => simp [hx, bind, Except.bind] at h
    | ok xText =>
      cases hy : limit.format y with
      | error fault => simp [hx, hy, bind, Except.bind] at h
      | ok yText =>
        obtain ⟨hallowsX, rfl⟩ := DigitLimit.format_eq_ok_iff.1 hx
        obtain ⟨hallowsY, rfl⟩ := DigitLimit.format_eq_ok_iff.1 hy
        rw [hx, hy] at h
        exact ⟨⟨hallowsX, hallowsY⟩, Except.ok.inj h⟩
  · rintro ⟨⟨hx, hy⟩, rfl⟩
    rw [DigitLimit.format_eq_ok_iff.2 ⟨hx, rfl⟩, DigitLimit.format_eq_ok_iff.2 ⟨hy, rfl⟩]
    rfl

end Tabletop
