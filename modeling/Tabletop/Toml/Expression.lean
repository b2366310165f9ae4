import Tabletop.Toml.Clock
import Tabletop.Toml.Number
import Tabletop.Toml.Quoted

/-!
# Keys and values in TOML

A key is one name or several with points between them; a name is bare or in quotes. A value is a
text, a truth value, a moment, a number, a list in brackets or a record in braces. Lists may go over
several lines and have comments in them, records may not.

Within a record a key may not be given twice, and what was given as a list or a record cannot be
added to. A value is read as far as the levels go that are left for what is nested in it.
-/

set_option autoImplicit false

namespace Tabletop.Toml

/-- A character of a name without quotes. -/
def isBare (c : Char) : Bool :=
  c.isAlphanum || c = '-' || c = '_'

/-- One name of a key. -/
def readName : (text : List Char) → Except Fault (Taken String text)
  | [] => failAt .invalidKey []
  | c :: rest =>
    if isBare c then
      .ok (Kept.taken c
        ⟨String.ofList (c :: rest.takeWhile isBare), rest.dropWhile isBare,
          length_dropWhile_le isBare rest⟩)
    else if c = '\'' then Kept.taken c <$> readLiteralLine rest
    else if c = '"' then Kept.taken c <$> readBasicLine rest
    else failAt .invalidKey (c :: rest)

/-- A key, and the rest without the spaces after the key. -/
def readKey (text : List Char) : Except Fault (Taken Key text) :=
  match readName text with
  | .error fault => .error fault
  | .ok name =>
    match _h : skipSpaces name.rest with
    | '.' :: rest =>
      have shorter : (skipSpaces rest).length < text.length :=
        Nat.lt_of_le_of_lt (length_dropWhile_le isSpace rest)
          (Nat.lt_trans (length_lt_of_dropWhile _h) name.shorter)
      have noLonger := Nat.le_of_lt shorter
      match readKey (skipSpaces rest) with
      | .error fault => .error fault
      | .ok more => .ok ((more.widen noLonger).map (name.value :: ·))
    | _ => .ok (name.trimmed.map fun value => [value])
termination_by text.length

/-- A key of which no part was given as a value of its own. -/
def isFrozen (frozen : List Key) (key : Key) : Bool :=
  frozen.any fun held => held.isPrefixOf key

/-- Where a value may not be put into a record. -/
inductive Clash where
  | overwritten
  | duplicate

/-- A record with a value put at a key, through the records on the way. -/
def putAt (fields : Fields) : Key → Value → Except Clash Fields
  | [], _ => .error .overwritten
  | [name], value =>
    match fields.get? name with
    | some _ => .error .duplicate
    | none => .ok (fields.put name value)
  | name :: next :: names, value =>
    match fields.get? name with
    | none => (fun inner => fields.put name (.record inner)) <$> putAt [] (next :: names) value
    | some (.record inner) =>
      (fun inner => fields.put name (.record inner)) <$> putAt inner (next :: names) value
    | some _ => .error .overwritten

/-- A value that nothing can be added to by further keys. -/
def isContainer : Value → Bool
  | .list _ => true
  | .record _ => true
  | _ => false

/-- A text after the quotes it begins with. -/
def textAfter {text : List Char} (found : Except Fault (Kept String text)) :
    Except Fault (Value × List Char) :=
  (fun kept => (.text kept.value, kept.rest)) <$> found

/-- A text, a truth value, a moment or a number, and the rest. -/
def plain (text : List Char) : Except Fault (Value × List Char) :=
  match text with
  | '"' :: '"' :: '"' :: rest => textAfter (readBasicLines rest)
  | '"' :: rest => textAfter (readBasicLine rest)
  | '\'' :: '\'' :: '\'' :: rest => textAfter (readLiteralLines rest)
  | '\'' :: rest => textAfter (readLiteralLine rest)
  | 't' :: 'r' :: 'u' :: 'e' :: rest => .ok (.bool true, rest)
  | 'f' :: 'a' :: 'l' :: 's' :: 'e' :: rest => .ok (.bool false, rest)
  | _ =>
    match moment? text with
    | some (.error _) => failAt .invalidMoment text
    | some (.ok (moment, rest)) => .ok (.moment moment, rest)
    | none =>
      match number? text with
      | some found => found
      | none =>
        match special? text with
        | some found => .ok found
        | none => failAt .invalidValue text

/-- A text, a truth value, a moment or a number. -/
def readPlain (text : List Char) : Except Fault (Taken Value text) :=
  match plain text with
  | .error fault => .error fault
  | .ok found =>
    match Taken.of? text found with
    | some taken => .ok taken
    | none => failAt .invalidValue text

/-- What follows the brace of a record: its fields so far, and the keys that cannot be added to. -/
structure Opened where
  fields : Fields
  frozen : List Key

mutual

/-- A value, with so many levels for what is nested in it. -/
def readValue (levels : Nat) : (text : List Char) → Except Fault (Taken Value text)
  | '[' :: rest =>
    if levels < listLevels then .error .tooDeep
    else
      match skipTrivia rest with
      | .error fault => .error fault
      | .ok kept =>
        have := kept.noLonger
        match readItems (levels - listLevels) kept.rest with
        | .error fault => .error fault
        | .ok items =>
          .ok ⟨.list items.value, items.rest, by
            have := items.shorter
            simp only [List.length_cons]
            omega⟩
  | '\x7b' :: rest =>
    have := length_dropWhile_le isSpace rest
    if levels < recordLevels then .error .tooDeep
    else
      match _h : skipSpaces rest with
      | '\x7d' :: after =>
        .ok ⟨.record [], after, by
          simp only [skipSpaces] at _h
          simp only [_h, List.length_cons] at *
          omega⟩
      | _ =>
        match readFields (levels - recordLevels) ⟨[], []⟩ (skipSpaces rest) with
        | .error fault => .error fault
        | .ok fields =>
          .ok ⟨.record fields.value, fields.rest, by
            have := fields.shorter
            simp only [skipSpaces] at this
            simp only [List.length_cons]
            omega⟩
  | text => readPlain text
termination_by text => 2 * text.length
decreasing_by
  · simp only [List.length_cons]
    omega
  · simp only [skipSpaces, List.length_cons]
    omega

/-- The items of a list up to its end. -/
def readItems (levels : Nat) : (text : List Char) → Except Fault (Taken (List Value) text)
  | ']' :: rest => .ok ⟨[], rest, Nat.lt_succ_self _⟩
  | text =>
    match readValue levels text with
    | .error fault => .error fault
    | .ok item =>
      have := item.shorter
      match skipTrivia item.rest with
      | .error fault => .error fault
      | .ok kept =>
        have := kept.noLonger
        match _h : kept.rest with
        | ']' :: rest =>
          .ok ⟨[item.value], rest, by simp only [_h, List.length_cons] at *; omega⟩
        | ',' :: rest =>
          match skipTrivia rest with
          | .error fault => .error fault
          | .ok next =>
            have := next.noLonger
            match readItems levels next.rest with
            | .error fault => .error fault
            | .ok more =>
              .ok ⟨item.value :: more.value, more.rest, by
                have := more.shorter
                simp only [_h, List.length_cons] at *
                omega⟩
        | other => failAt .unclosedList other
termination_by text => 2 * text.length + 1
decreasing_by
  · omega
  · simp only [_h, List.length_cons] at *
    omega

/-- The fields of a record up to its end. -/
def readFields (levels : Nat) (opened : Opened) (text : List Char) :
    Except Fault (Taken Fields text) :=
  match readKey text with
  | .error fault => .error fault
  | .ok key =>
    have := key.shorter
    match _h : key.rest with
    | '=' :: rest =>
      have := length_dropWhile_le isSpace rest
      match readValue levels (skipSpaces rest) with
      | .error fault => .error fault
      | .ok value =>
        have := value.shorter
        if isFrozen opened.frozen key.value then failAt (.immutable key.value) value.rest
        else
          match putAt opened.fields key.value value.value with
          | .error .overwritten => failAt .overwritten value.rest
          | .error .duplicate =>
            failAt (.duplicate (key.value.getLast?.getD "")) value.rest
          | .ok fields =>
            have := length_dropWhile_le isSpace value.rest
            match _h' : skipSpaces value.rest with
            | '\x7d' :: after =>
              .ok ⟨fields, after, by
                simp only [skipSpaces] at *
                simp only [_h, _h', List.length_cons] at *
                omega⟩
            | ',' :: after =>
              have := length_dropWhile_le isSpace after
              let frozen :=
                if isContainer value.value then key.value :: opened.frozen else opened.frozen
              match readFields levels ⟨fields, frozen⟩ (skipSpaces after) with
              | .error fault => .error fault
              | .ok more =>
                .ok ⟨more.value, more.rest, by
                  have := more.shorter
                  simp only [skipSpaces] at *
                  simp only [_h, _h', List.length_cons] at *
                  omega⟩
            | other => failAt .unclosedRecord other
    | other => failAt .noEqualsSign other
termination_by 2 * text.length + 1
decreasing_by
  · simp only [skipSpaces, _h, List.length_cons] at *
    omega
  · simp only [skipSpaces] at *
    simp only [_h, _h', List.length_cons] at *
    omega

end

end Tabletop.Toml
