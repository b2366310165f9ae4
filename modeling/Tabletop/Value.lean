import Tabletop.Moment
import Tabletop.Number.Binary64
import Tabletop.Text.Quoted

/-!
# Values

The values that come from outside before anything is known of their shape: from a configuration
file, from the environment, from the flags of a caller, and in the details of a result. A record is
a list of fields in the order in which they were first given; giving a field again replaces its
value and keeps its place (`Fields.put`).

Two records are laid over each other field by field, and a record inside both likewise
(`Fields.over`); any other value above hides the one below.

`get?_put_self` and `get?_put_of_ne` say what a field holds after it was given, and
`keys_put` that its place is kept.
-/

set_option autoImplicit false

namespace Tabletop

/-- A value of a configuration file, of the environment or of a result. -/
inductive Value where
  | null
  | bool (flag : Bool)
  | int (number : Int)
  | real (number : Binary64)
  | text (string : String)
  | moment (instant : Moment)
  | list (items : List Value)
  | record (fields : List (String × Value))
  deriving Repr

/-- The fields of a record, in order. -/
abbrev Fields := List (String × Value)

namespace Fields

variable {fields : Fields} {key other : String} {value : Value}

/-- The value of a field. -/
def get? (fields : Fields) (key : String) : Option Value :=
  List.lookup key fields

/-- The record with a field given: in its place if it is there, else at the end. -/
def put : Fields → String → Value → Fields
  | [], key, value => [(key, value)]
  | (k, v) :: rest, key, value =>
    if k = key then (k, value) :: rest else (k, v) :: put rest key value

/-- The names of the fields, in order. -/
def keys (fields : Fields) : List String :=
  fields.map Prod.fst

theorem get?_put_self : (put fields key value).get? key = some value := by
  induction fields with
  | nil => simp [put, get?]
  | cons field rest ih =>
    obtain ⟨k, v⟩ := field
    by_cases h : k = key
    · simp [put, get?, h]
    · have h' : (key == k) = false := by simpa using fun e => h e.symm
      simpa [put, get?, h, List.lookup_cons, h'] using ih

theorem get?_put_of_ne (h : other ≠ key) :
    (put fields key value).get? other = fields.get? other := by
  induction fields with
  | nil =>
    have h' : (other == key) = false := by simpa using h
    simp [put, get?, List.lookup_cons, h']
  | cons field rest ih =>
    obtain ⟨k, v⟩ := field
    simp only [get?] at ih
    by_cases hk : k = key
    · subst hk
      have h' : (other == k) = false := by simpa using h
      simp [put, get?, List.lookup_cons, h']
    · by_cases ho : other = k
      · simp [put, get?, hk, ho]
      · have h' : (other == k) = false := by simpa using ho
        simp [put, get?, hk, List.lookup_cons, h', ih]

/-- A field given again keeps its place; a new one goes to the end. -/
theorem keys_put : (put fields key value).keys =
    if key ∈ fields.keys then fields.keys else fields.keys ++ [key] := by
  induction fields with
  | nil => simp [put, keys]
  | cons field rest ih =>
    obtain ⟨k, v⟩ := field
    simp only [keys] at ih
    by_cases h : k = key
    · simp [put, keys, h]
    · have h' : key ≠ k := fun e => h e.symm
      simp only [put, h, if_false, keys, List.map_cons, ih, List.mem_cons, h', false_or]
      by_cases hm : key ∈ rest.map Prod.fst <;> simp [hm]

end Fields

mutual

/-- A value laid over another: records field by field, anything else hides what is below. -/
def Value.over : Value → Option Value → Value
  | .record upper, some (.record lower) => .record (Fields.overList upper lower)
  | value, _ => value

/-- Fields laid over others: those below keep their places, new ones follow in order. -/
def Fields.overList : List (String × Value) → Fields → Fields
  | [], lower => lower
  | (key, value) :: rest, lower =>
    Fields.overList rest (lower.put key (value.over (lower.get? key)))

end

/-- The fields of `upper` laid over those of `lower`. -/
def Fields.over (upper lower : Fields) : Fields :=
  Fields.overList upper lower

/-- The words for the two truth values. -/
def boolWord (flag : Bool) : String :=
  if flag then "True" else "False"

mutual

/-- A value as it stands inside a list or a record: texts in quotes. -/
def Value.literal : Value → String
  | .null => "None"
  | .bool flag => boolWord flag
  | .int number => toString number
  | .real number => number.text
  | .text string => Text.quoted string
  | .moment instant => instant.text
  | .list items => "[" ++ literalItems items ++ "]"
  | .record fields => "\x7b" ++ literalFields fields ++ "\x7d"

/-- The items of a list, with commas between them. -/
def literalItems : List Value → String
  | [] => ""
  | [item] => item.literal
  | item :: next :: rest => item.literal ++ ", " ++ literalItems (next :: rest)

/-- The fields of a record, with commas between them. -/
def literalFields : List (String × Value) → String
  | [] => ""
  | [(key, value)] => Text.quoted key ++ ": " ++ value.literal
  | (key, value) :: next :: rest =>
    Text.quoted key ++ ": " ++ value.literal ++ ", " ++ literalFields (next :: rest)

end

mutual

/-- How deep a value reaches: one level by itself, and below it the deepest of what it holds. -/
def Value.depth : Value → Nat
  | .list items => 1 + depthOfItems items
  | .record fields => 1 + depthOfFields fields
  | _ => 1

/-- The depth of the deepest of some items. -/
def depthOfItems : List Value → Nat
  | [] => 0
  | item :: rest => max item.depth (depthOfItems rest)

/-- The depth of the deepest value of some fields. -/
def depthOfFields : List (String × Value) → Nat
  | [] => 0
  | (_, value) :: rest => max value.depth (depthOfFields rest)

end

/-- A value as it is shown by itself: a text stands without quotes. -/
def Value.display : Value → String
  | .text string => string
  | value => value.literal

/-- A value that is not nothing, zero, false or empty. -/
def Value.isTruthy : Value → Bool
  | .null => false
  | .bool flag => flag
  | .int number => number != 0
  | .real number => number.whole? != some 0
  | .text string => string != ""
  | .moment _ => true
  | .list items => !items.isEmpty
  | .record fields => !fields.isEmpty

end Tabletop
