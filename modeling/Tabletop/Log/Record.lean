import Tabletop.Value

/-!
# Log records

What happened, how grave it is, and the logger it comes from. A plain record is a message and
perhaps the parts of a failure that caused it. A structured record also carries fields.
-/

set_option autoImplicit false

namespace Tabletop.Log

/-- How grave a record is, as a number. -/
structure Level where
  number : Int
  deriving DecidableEq, Repr

namespace Level

@[match_pattern]
def debug : Level := ⟨10⟩

@[match_pattern]
def info : Level := ⟨20⟩

@[match_pattern]
def warning : Level := ⟨30⟩

@[match_pattern]
def error : Level := ⟨40⟩

@[match_pattern]
def critical : Level := ⟨50⟩

/-- The name of a level. One that is not among the five has its number for a name. -/
def title : Level → String
  | debug => "DEBUG"
  | info => "INFO"
  | warning => "WARNING"
  | error => "ERROR"
  | critical => "CRITICAL"
  | ⟨number⟩ => "Level " ++ toString number

/-- The name of a level in small letters. -/
def name (level : Level) : String :=
  String.ofList (level.title.toList.map Char.toLower)

/-- The levels with a name of their own, the least grave first. -/
def all : List Level := [debug, info, warning, error, critical]

/-- The level of a name in small letters. -/
def ofName? (name : String) : Option Level :=
  all.find? fun level => level.name == name

/-- Whether a level is at least as grave as a threshold. One whose number is not positive reaches no
threshold. -/
def reaches (level threshold : Level) : Bool :=
  0 < level.number && threshold.number ≤ level.number

theorem reaches_iff {level threshold : Level} (h : 0 < threshold.number) :
    level.reaches threshold = true ↔ threshold.number ≤ level.number := by
  simp only [reaches, Bool.and_eq_true, decide_eq_true_eq]
  omega

end Level

/-- Something that happened. -/
structure Record where
  level : Level
  logger : String
  message : String
  isStructured : Bool := false
  context : Fields := []
  cause : List String := []
  deriving Repr

/-- All fields of a record: those given with it, then the message, the parts of a failure, the
level, the logger and the time. A given field of one of these names keeps its place, but not its
value. -/
def Record.fields (time : String) (record : Record) : Fields :=
  let given := record.context.put "event" (.text record.message)
  let caused :=
    if record.cause.isEmpty then given
    else given.put "exc_info" (.list (record.cause.map .text))
  ((caused.put "level" (.text record.level.name)).put "logger" (.text record.logger)).put
    "timestamp" (.text time)

/-- The name of the logger above all loggers of the program. -/
def rootLogger : String := "robosim"

/-- The logger of obeying commands. -/
def dispatchLogger : String := "robosim.services.dispatch"

/-- The logger of reading lines. -/
def simulationLogger : String := "robosim.services.simulation"

/-- The logger of checks. -/
def checkLogger : String := "robosim.services.check"

/-- The logger of the command that runs a script. -/
def runLogger : String := "robosim.commands.run"

/-- A record of the least grave level. -/
def debug (logger message : String) : Record where
  level := .debug
  logger := logger
  message := message

/-- Whether a logger is the one above all others or stands below it. -/
def isOurs (logger : String) : Bool :=
  logger == rootLogger || (rootLogger ++ ".").isPrefixOf logger

end Tabletop.Log
