import Tabletop.Text.Blank
import Tabletop.Value

/-!
# Problems with values

A value from outside that is not what is asked for has problems, each at a place inside the value.
Reading a record collects the problems of all its fields, in the order of the fields
(`Validated.both`).
-/

set_option autoImplicit false

namespace Tabletop

/-- What is wrong with a value. -/
inductive ProblemCause where
  | missing
  | unexpected
  | notText
  | notList
  | notRecord
  /-- The value is not a record of the named kind. -/
  | notRecordOf (kind : String)
  /-- The value is no record at all, where one of several kinds is asked for. -/
  | noFields
  /-- The record does not say by the named field of which kind it is. -/
  | noTag (field : String)
  /-- The field says a kind that is none of those asked for. -/
  | unknownTag (tag field : String) (kinds : List String)
  /-- The value is none of the words asked for. -/
  | notOneOf (words : List String)
  | notInteger
  | notIntegerText
  | fraction
  | notFinite
  | tooManyDigits
  /-- The integer is not greater than the bound. -/
  | notAbove (bound : Int)
  | notBoolean
  | notBooleanWord
  deriving DecidableEq, Repr

/-- Words in quotes, with commas between them and a last word before the last. -/
def alternatives (last : String) : List String → String
  | [] => ""
  | [word] => "'" ++ word ++ "'"
  | [word, final] => "'" ++ word ++ "'" ++ last ++ "'" ++ final ++ "'"
  | word :: rest => "'" ++ word ++ "', " ++ alternatives last rest

/-- A cause in words. -/
def ProblemCause.text : ProblemCause → String
  | .missing => "Field required"
  | .unexpected => "Extra inputs are not permitted"
  | .notText => "Input should be a valid string"
  | .notList => "Input should be a valid list"
  | .notRecord => "Input should be a valid dictionary"
  | .notRecordOf kind => "Input should be a valid dictionary or instance of " ++ kind
  | .noFields => "Input should be a valid dictionary or object to extract fields from"
  | .noTag field => "Unable to extract tag using discriminator '" ++ field ++ "'"
  | .unknownTag tag field kinds =>
    "Input tag '" ++ tag ++ "' found using '" ++ field ++
      "' does not match any of the expected tags: " ++ alternatives ", " kinds
  | .notOneOf words => "Input should be " ++ alternatives " or " words
  | .notInteger => "Input should be a valid integer"
  | .notIntegerText => "Input should be a valid integer, unable to parse string as an integer"
  | .fraction => "Input should be a valid integer, got a number with a fractional part"
  | .notFinite => "Input should be a finite number"
  | .tooManyDigits => "Unable to parse input string as an integer, exceeded maximum size"
  | .notAbove bound => "Input should be greater than " ++ toString bound
  | .notBoolean => "Input should be a valid boolean"
  | .notBooleanWord => "Input should be a valid boolean, unable to interpret input"

/-- A place inside a value and what is wrong there. -/
structure Problem where
  path : List String
  cause : ProblemCause
  deriving DecidableEq, Repr

namespace Problem

/-- The place of a problem in words. -/
def place (problem : Problem) : String :=
  Text.join "." problem.path

/-- A problem in words, after its place. -/
def text (problem : Problem) : String :=
  problem.place ++ ": " ++ problem.cause.text

/-- The problem seen from the value that has the problematic one in a field. -/
def under (key : String) (problem : Problem) : Problem :=
  { problem with path := key :: problem.path }

end Problem

/-- The problems of a value that has at least one. -/
structure Problems where
  first : Problem
  rest : List Problem := []
  deriving DecidableEq, Repr

namespace Problems

/-- The problems in order. -/
def toList (problems : Problems) : List Problem :=
  problems.first :: problems.rest

/-- The problems of one value and then those of another. -/
def append (front back : Problems) : Problems where
  first := front.first
  rest := front.rest ++ back.toList

/-- The problems seen from the value that has the problematic one in a field. -/
def under (key : String) (problems : Problems) : Problems where
  first := problems.first.under key
  rest := problems.rest.map (Problem.under key)

/-- Problems in words. -/
def text (problems : Problems) : String :=
  Text.join "; " (problems.toList.map Problem.text)

end Problems

/-- What a value is read as, or all its problems. -/
abbrev Validated (α : Type) := Except Problems α

namespace Validated

variable {α β : Type}

/-- A value that has one problem. -/
def fail (cause : ProblemCause) : Validated α :=
  .error ⟨⟨[], cause⟩, []⟩

/-- The same with its problems seen from the value that has it in a field. -/
def under (key : String) : Validated α → Validated α
  | .ok a => .ok a
  | .error problems => .error (problems.under key)

/-- Two values read side by side, with the problems of both. -/
def both : Validated α → Validated β → Validated (α × β)
  | .ok a, .ok b => .ok (a, b)
  | .ok _, .error later => .error later
  | .error first, .ok _ => .error first
  | .error first, .error later => .error (first.append later)

/-- Two values can be read side by side just if each of them can. -/
theorem both_eq_ok_iff {first : Validated α} {second : Validated β} {a : α} {b : β} :
    both first second = .ok (a, b) ↔ first = .ok a ∧ second = .ok b := by
  cases first <;> cases second <;> simp [both]

/-- The problems of a value, none if it is read. -/
def problems : Validated α → List Problem
  | .ok _ => []
  | .error found => found.toList

/-- The problems of values read side by side are those of the one and then those of the other. -/
theorem problems_both (first : Validated α) (second : Validated β) :
    (both first second).problems = first.problems ++ second.problems := by
  cases first <;> cases second <;> simp [both, problems, Problems.append, Problems.toList]

end Validated

namespace Fields

variable {α : Type}

/-- A field that has to be there. -/
def required (fields : Fields) (key : String) (read : Value → Validated α) : Validated α :=
  Validated.under key
    (match fields.get? key with
    | some value => read value
    | none => .fail .missing)

/-- A field for which there is a value to go by if it is not there. -/
def optional (fields : Fields) (key : String) (default : α) (read : Value → Validated α) :
    Validated α :=
  Validated.under key
    (match fields.get? key with
    | some value => read value
    | none => .ok default)

end Fields

end Tabletop
