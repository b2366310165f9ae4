import Tabletop.CommandLine.Fault
import Tabletop.Text.Resemblance

/-!
# Words of a command line

The words of a scope are parted into switches with their values and all other words. A word that
starts with a dash and goes on is a switch by its long name, perhaps with a value after an equals
sign, or a row of letters, of which the first that takes a value has the rest of the word for it.
Otherwise the value is the word that follows. After two dashes alone no word is a switch, and the
program as a whole takes none after the first other word.
-/

set_option autoImplicit false

namespace Tabletop.CommandLine

/-- The switches that were given, in order, each with its value, which is empty where it takes none;
and all other words. -/
structure Words where
  given : List (Switch × String) := []
  others : List String := []
  deriving DecidableEq, Repr

/-- What one word gives: switches, and perhaps one, under the name it was given by, whose value is
the next word. -/
structure SwitchWord where
  given : List (Switch × String) := []
  pending : Option (Switch × String) := none
  deriving DecidableEq, Repr

/-- Whether a word is a switch, or a row of them. -/
def isSwitchWord (word : String) : Bool :=
  match word.toList with
  | '-' :: _ :: _ => true
  | _ => false

/-- The switches of a row of letters. -/
def readLetters (scope : Scope) : List Char → Except Fault SwitchWord
  | [] => .ok {}
  | letter :: rest =>
    let name := String.ofList ['-', letter]
    match scope.ofLetter? letter with
    | none => .error (.unknownSwitch name [])
    | some switch =>
      if switch.takesValue then
        if rest.isEmpty then .ok ⟨[], some (switch, name)⟩
        else .ok ⟨[(switch, String.ofList rest)], none⟩
      else
        match readLetters scope rest with
        | .error fault => .error fault
        | .ok more => .ok { more with given := (switch, "") :: more.given }

/-- The switches of a word. -/
def readSwitchWord (scope : Scope) (word : String) : Except Fault SwitchWord :=
  let cs := word.toList
  let name := String.ofList (cs.takeWhile (· != '='))
  let value? :=
    match cs.dropWhile (· != '=') with
    | [] => none
    | _ :: value => some (String.ofList value)
  match scope.ofLong? name, value? with
  | some switch, none =>
    if switch.takesValue then .ok ⟨[], some (switch, name)⟩ else .ok ⟨[(switch, "")], none⟩
  | some switch, some value =>
    if switch.takesValue then .ok ⟨[(switch, value)], none⟩ else .error (.unwantedValue name)
  | none, _ =>
    match cs with
    | '-' :: '-' :: _ =>
      .error (.unknownSwitch name (Text.resembling name (scope.switches.map Switch.long)))
    | _ => readLetters scope (cs.drop 1)

/-- Words with some switches before them. -/
def Words.after (given : List (Switch × String)) (words : Words) : Words :=
  { words with given := given ++ words.given }

/-- The words of a scope. -/
def readWords (scope : Scope) : List String → Except Fault Words
  | [] => .ok {}
  | word :: rest =>
    if word = "--" then .ok ⟨[], rest⟩
    else if isSwitchWord word then
      match readSwitchWord scope word with
      | .error fault => .error fault
      | .ok ⟨given, none⟩ => Words.after given <$> readWords scope rest
      | .ok ⟨given, some (switch, name)⟩ =>
        match rest with
        | [] => .error (.noValue name)
        | value :: rest => Words.after (given ++ [(switch, value)]) <$> readWords scope rest
    else if scope = .program then .ok ⟨[], word :: rest⟩
    else (fun words => { words with others := word :: words.others }) <$> readWords scope rest

namespace Words

/-- Whether a switch was given. -/
def has (words : Words) (switch : Switch) : Bool :=
  words.given.any fun entry => entry.1 == switch

/-- The value that a switch was given last. -/
def value? (words : Words) (switch : Switch) : Option String :=
  List.lookup switch words.given.reverse

/-- The page that the first switch asks for that asks for one. -/
def page? (scope : Scope) (words : Words) : Option String :=
  words.given.findSome? fun entry => scope.page? entry.1

end Words

end Tabletop.CommandLine
