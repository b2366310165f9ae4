import Tabletop.Json.Token
import Tabletop.Value

/-!
# Reading JSON

Tokens are taken one at a time (`Reader.step`), with the lists and records part way through held in
a stack of frames, so that text of any depth is read by recursion on its tokens. A field given twice
in a record keeps its first place and its last value.

Integers are told apart from numbers with a point or an exponent; `NaN` and the two infinities are
numbers too. An integer of more than 4300 digits is refused.
-/

set_option autoImplicit false

namespace Tabletop.Json

/-- The greatest number of digits of an integer. -/
def maxIntegerDigits : Nat := 4300

/-- A text parted after its leading digits. -/
def spanDigits (cs : List Char) : List Char × List Char :=
  (cs.takeWhile Text.isDigit, cs.dropWhile Text.isDigit)

/-- The digits after the point and what follows them; no digits if there is no point. -/
def fraction? : List Char → Option (List Char × List Char)
  | '.' :: cs => if (spanDigits cs).1.isEmpty then none else some (spanDigits cs)
  | cs => some ([], cs)

/-- The power of ten in which a text of an exponent or of nothing ends. -/
def power? : List Char → Option Int
  | [] => some 0
  | e :: cs =>
    if e = 'e' || e = 'E' then
      let negative := cs.head? == some '-'
      let digits := if negative || cs.head? == some '+' then cs.drop 1 else cs
      if digits.isEmpty || !digits.all Text.isDigit then none
      else
        let size : Int := Text.ofDigits digits
        some (if negative then -size else size)
    else none

/-- The number that an atom without its sign stands for. -/
def unsigned? (negative : Bool) (cs : List Char) : Option Value := do
  let (whole, afterWhole) := spanDigits cs
  if whole.isEmpty || (whole.head? == some '0' && 1 < whole.length) then none
  else if afterWhole.isEmpty then
    let size : Int := Text.ofDigits whole
    if maxIntegerDigits < whole.length then none
    else some (.int (if negative then -size else size))
  else
    let (fraction, afterFraction) ← fraction? afterWhole
    let power ← power? afterFraction
    some (.real (Binary64.ofLiteral negative whole fraction power))

/-- The value that an atom stands for. -/
def atomValue? (cs : List Char) : Option Value :=
  if cs = ['n', 'u', 'l', 'l'] then some .null
  else if cs = ['t', 'r', 'u', 'e'] then some (.bool true)
  else if cs = ['f', 'a', 'l', 's', 'e'] then some (.bool false)
  else if cs = ['N', 'a', 'N'] then some (.real .nan)
  else if cs = ['I', 'n', 'f', 'i', 'n', 'i', 't', 'y'] then some (.real (.infinite false))
  else if cs = ['-', 'I', 'n', 'f', 'i', 'n', 'i', 't', 'y'] then some (.real (.infinite true))
  else
    match cs with
    | '-' :: rest => unsigned? true rest
    | cs => unsigned? false cs

/-- A list or a record part way through: the items last first, or the fields and the name of the
field whose value is being read. -/
inductive Frame where
  | list (items : List Value)
  | field (fields : Fields) (key : String)

/-- What has been read, and so what may follow. -/
inductive Reader where
  /-- A value follows. -/
  | value (frames : List Frame)
  /-- The first item of a list follows, or its end. -/
  | firstItem (frames : List Frame)
  /-- The first field of a record follows, or its end. -/
  | firstKey (frames : List Frame)
  /-- A further field of a record follows. -/
  | nextKey (fields : Fields) (frames : List Frame)
  /-- The colon after the name of a field follows. -/
  | colon (fields : Fields) (key : String) (frames : List Frame)
  /-- A comma follows, or the end of the list. -/
  | afterItem (items : List Value) (frames : List Frame)
  /-- A comma follows, or the end of the record. -/
  | afterField (fields : Fields) (frames : List Frame)
  /-- Nothing follows. -/
  | done (whole : Value)

namespace Reader

/-- A value handed to the list or record that waits for it. -/
def supply (value : Value) : List Frame → Reader
  | [] => .done value
  | .list items :: frames => .afterItem (value :: items) frames
  | .field fields key :: frames => .afterField (fields.put key value) frames

/-- A token where a value stands. -/
def begin? (frames : List Frame) : Token → Option Reader
  | .openList => some (.firstItem frames)
  | .openRecord => some (.firstKey frames)
  | .text string => some (supply (.text string) frames)
  | .atom characters => (atomValue? characters).map (supply · frames)
  | _ => none

/-- The state after a token, if the token may stand there. -/
def step : Reader → Token → Option Reader
  | .value frames, token => begin? frames token
  | .firstItem frames, .closeList => some (supply (.list []) frames)
  | .firstItem frames, token => begin? (.list [] :: frames) token
  | .firstKey frames, .closeRecord => some (supply (.record []) frames)
  | .firstKey frames, .text key => some (.colon [] key frames)
  | .nextKey fields frames, .text key => some (.colon fields key frames)
  | .colon fields key frames, .colon => some (.value (.field fields key :: frames))
  | .afterItem items frames, .comma => some (.value (.list items :: frames))
  | .afterItem items frames, .closeList => some (supply (.list items.reverse) frames)
  | .afterField fields frames, .comma => some (.nextKey fields frames)
  | .afterField fields frames, .closeRecord => some (supply (.record fields) frames)
  | _, _ => none

/-- The value that has been read, if it is complete. -/
def result? : Reader → Option Value
  | .done whole => some whole
  | _ => none

end Reader

/-- The value that a text of JSON stands for. -/
def read? (text : String) : Option Value := do
  let tokens ← tokens? text.toList
  let reader ← tokens.foldlM Reader.step (.value [])
  reader.result?

end Tabletop.Json
