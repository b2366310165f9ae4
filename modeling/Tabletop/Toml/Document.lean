import Tabletop.Toml.Expression

/-!
# Documents of TOML

A document is a row of statements, each on a line: a key with a value, a header that opens a table,
or a header in double brackets that adds a table to a list. The keys that follow a header are keys
of its table.

A table may be opened by a header only once, and not at all if it was made by a key with points in
an earlier part. What was given as a value of its own is not added to. Opening a further table of a
list sets free what was held below it.
-/

set_option autoImplicit false

namespace Tabletop.Toml

/-- A document part way through: its tables, the table that keys are given for, and the keys that
hold: those given as values of their own, those opened, and those made by keys with points since
the last header, which are held from the next header on. -/
structure Document where
  tables : Fields := []
  header : Key := []
  frozen : List Key := []
  declared : List Key := []
  pending : List Key := []

/-- The table at a key changed, through tables and the last tables of lists, which are made where
there is nothing. -/
def edit (change : Fields → Option Fields) : Key → Fields → Option Fields
  | [], fields => change fields
  | name :: names, fields =>
    match fields.get? name with
    | none => (fun inner => fields.put name (.record inner)) <$> edit change names []
    | some (.record inner) =>
      (fun inner => fields.put name (.record inner)) <$> edit change names inner
    | some (.list items) =>
      match items.getLast? with
      | some (.record inner) =>
        (fun inner => fields.put name (.list (items.dropLast ++ [.record inner]))) <$>
          edit change names inner
      | _ => none
    | some _ => none

/-- A table with a value for a name that has none. -/
def assign (name : String) (value : Value) (fields : Fields) : Option Fields :=
  match fields.get? name with
  | some _ => none
  | none => some (fields.put name value)

/-- A table with one more table in the list at a name. -/
def appendTable (name : String) (fields : Fields) : Option Fields :=
  match fields.get? name with
  | none => some (fields.put name (.list [.record []]))
  | some (.list items) => some (fields.put name (.list (items ++ [.record []])))
  | some _ => none

/-- The parts of a key before its last name, the shortest first, without the empty one. -/
def properParts (key : Key) : List Key :=
  (List.range (key.length - 1)).map fun n => key.take (n + 1)

namespace Document

/-- The document at the start of a new part. -/
def hold (document : Document) : Document :=
  { document with declared := document.pending ++ document.declared, pending := [] }

/-- The document after a value for a key of the open table. -/
def give (document : Document) (key : Key) (value : Value) : Except Cause Document :=
  let whole := document.header ++ key
  let parent := whole.dropLast
  let parts := (properParts key).map (document.header ++ ·)
  match parts.find? document.declared.contains with
  | some part => .error (.redefined part)
  | none =>
    if isFrozen document.frozen parent then .error (.immutable parent)
    else
      match edit (assign (key.getLast?.getD "") value) parent document.tables with
      | none => .error .overwritten
      | some tables =>
        .ok
          { document with
            tables
            pending := parts ++ document.pending
            frozen := if isContainer value then whole :: document.frozen else document.frozen }

/-- The document after a header. -/
def openTable (document : Document) (key : Key) : Except Cause Document :=
  if document.declared.contains key || isFrozen document.frozen key then
    .error (.declaredTwice key)
  else
    match edit some key document.tables with
    | none => .error .overwritten
    | some tables =>
      .ok { document with tables, header := key, declared := key :: document.declared }

/-- The document after a header in double brackets. -/
def openItem (document : Document) (key : Key) : Except Cause Document :=
  let free (held : Key) : Bool := !key.isPrefixOf held
  if isFrozen document.frozen key then .error (.immutable key)
  else
    match edit (appendTable (key.getLast?.getD "")) key.dropLast document.tables with
    | none => .error .overwritten
    | some tables =>
      .ok
        { document with
          tables
          header := key
          frozen := document.frozen.filter free
          declared := key :: document.declared.filter free }

end Document

/-- A key, an equals sign and a value, with so many levels for what is nested in it. -/
def readGiven (levels : Nat) (document : Document) (text : List Char) :
    Except Fault (Kept Document text) :=
  match readKey text with
  | .error fault => .error fault
  | .ok key =>
    have := key.shorter
    match _h : key.rest with
    | '=' :: rest =>
      have := length_dropWhile_le isSpace rest
      match readValue levels (skipSpaces rest) with
      | .error fault => .error fault
      | .ok value =>
        match document.give key.value value.value with
        | .error cause => failAt cause value.rest
        | .ok after =>
          .ok ⟨after, value.rest, by
            have := value.shorter
            simp only [skipSpaces] at this
            simp only [_h, List.length_cons] at *
            omega⟩
    | other => failAt .noEqualsSign other

/-- A header after its opening brackets. -/
def readHeader (document : Document) (text : List Char) : Except Fault (Kept Document text) :=
  have := length_dropWhile_le isSpace text
  match readKey (skipSpaces text) with
  | .error fault => .error fault
  | .ok key =>
    have := key.shorter
    match document.openTable key.value with
    | .error cause => failAt cause key.rest
    | .ok after =>
      match _h : key.rest with
      | ']' :: rest =>
        .ok ⟨after, rest, by
          simp only [skipSpaces] at *
          simp only [_h, List.length_cons] at *
          omega⟩
      | other => failAt .unclosedHeader other

/-- A header in double brackets after its opening brackets. -/
def readItemHeader (document : Document) (text : List Char) : Except Fault (Kept Document text) :=
  have := length_dropWhile_le isSpace text
  match readKey (skipSpaces text) with
  | .error fault => .error fault
  | .ok key =>
    have := key.shorter
    match document.openItem key.value with
    | .error cause => failAt cause key.rest
    | .ok after =>
      match _h : key.rest with
      | ']' :: ']' :: rest =>
        .ok ⟨after, rest, by
          simp only [skipSpaces] at *
          simp only [_h, List.length_cons] at *
          omega⟩
      | other => failAt .unclosedListHeader other

/-- One statement, or nothing before a comment. -/
def readStatement (levels : Nat) (document : Document) (text : List Char) :
    Except Fault (Kept Document text) :=
  match text with
  | '[' :: '[' :: rest =>
    (fun kept => (kept.step '[').step '[') <$> readItemHeader document.hold rest
  | '[' :: rest => Kept.step '[' <$> readHeader document.hold rest
  | '#' :: rest => .ok (.here document ('#' :: rest))
  | c :: rest =>
    if isBare c || c = '\'' || c = '"' then readGiven levels document (c :: rest)
    else failAt .invalidStatement (c :: rest)
  | [] => .ok (.here document [])

/-- The tables of the statements that are left. -/
def readStatements (levels : Nat) (document : Document) (text : List Char) : Except Fault Fields :=
  have := length_dropWhile_le isSpace text
  match _h : skipSpaces text with
  | [] => .ok document.tables
  | '\n' :: rest =>
    have : rest.length < text.length := by
      simp only [skipSpaces] at _h
      simp only [_h, List.length_cons] at *
      omega
    readStatements levels document rest
  | statement =>
    match readStatement levels document statement with
    | .error fault => .error fault
    | .ok kept =>
      have := kept.noLonger
      have := length_dropWhile_le isSpace kept.rest
      match skipComment (skipSpaces kept.rest) with
      | .error fault => .error fault
      | .ok ended =>
        have := ended.noLonger
        match _h' : ended.rest with
        | [] => .ok kept.value.tables
        | '\n' :: rest =>
          have : rest.length < text.length := by
            simp only [skipSpaces] at *
            simp only [_h, _h', List.length_cons] at *
            omega
          readStatements levels kept.value rest
        | other => failAt .unfinishedLine other
termination_by text.length

/-- A text with each carriage return dropped that stands before a line feed. -/
def joinLineEnds : List Char → List Char
  | '\r' :: '\n' :: rest => '\n' :: joinLineEnds rest
  | c :: rest => c :: joinLineEnds rest
  | [] => []

/-- A document that cannot be read, and why. -/
structure Misreading where
  document : List Char
  fault : Fault

/-- What is wrong with a document in words. -/
def Misreading.text (misreading : Misreading) : String :=
  misreading.fault.text misreading.document

/-- The tables of a document, in which values may be nested so many levels deep, counted by
`listLevels` and `recordLevels`. -/
def read (levels : Nat) (text : List Char) : Except Misreading Fields :=
  let document := joinLineEnds text
  match readStatements levels {} document with
  | .ok tables => .ok tables
  | .error fault => .error ⟨document, fault⟩

end Tabletop.Toml
