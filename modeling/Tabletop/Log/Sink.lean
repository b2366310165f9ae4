import Tabletop.Log.Layout

/-!
# Where records go

A sink has handlers, a threshold below which records are dropped, and the choice of whether records
are passed on to what lies above. The program has one handler of its own, which writes to the
standard error. All others belong to somebody else and are kept as they are; what they write to the
standard error, if anything, is theirs to say.

Configuring a sink puts one handler of the program's own in the place of any it had before.
-/

set_option autoImplicit false

namespace Tabletop.Log

/-- A handler of records. -/
inductive Handler where
  /-- A handler of somebody else's, by what it writes to the standard error when given a record. -/
  | foreign (writes : String → Record → String)
  /-- The program's own. -/
  | standardError (layout : Layout)

/-- Whether a handler is the program's own. -/
def Handler.isOwn : Handler → Bool
  | .foreign _ => false
  | .standardError _ => true

/-- Where records go. Without a threshold that of what lies above holds. -/
structure Sink where
  handlers : List Handler
  threshold : Option Level := none
  passesOn : Bool := true

/-- The threshold of what lies above. -/
def outerThreshold : Level := .warning

namespace Sink

/-- The name of the threshold. -/
def thresholdName (sink : Sink) : String :=
  match sink.threshold with
  | some level => level.title
  | none => "NOTSET"

/-- The sink with one handler of the program's own. -/
def configure (verbose json : Bool) (sink : Sink) : Sink where
  handlers := sink.handlers.filter (fun handler => !handler.isOwn) ++
    [.standardError (if json then .json else .console)]
  threshold := some (if verbose then .debug else .warning)
  passesOn := false

/-- What a handler writes to the standard error. -/
def handled (time : String) (record : Record) : Handler → String
  | .foreign writes => writes time record
  | .standardError layout => record.line layout time

/-- What a record makes the sink write to the standard error. -/
def write (time : String) (sink : Sink) (record : Record) : String :=
  if record.level.reaches (sink.threshold.getD outerThreshold) then
    String.join (sink.handlers.map (handled time record))
  else ""

/-- Whether a handler of the program's own was put in. -/
def isConfigured (sink : Sink) : Bool :=
  sink.handlers.any Handler.isOwn

/-- What a record from elsewhere, which has no handler, shows by itself: its message, or all fields
of a structured one, which goes to the standard error only once the sink is configured. -/
def bare (time : String) (sink : Sink) (record : Record) : String :=
  if !record.isStructured then record.message ++ "\n"
  else if sink.isConfigured then (Value.record (record.fields time)).literal ++ "\n"
  else ""

/-- What a record makes the whole program write: one from elsewhere is written by itself if it is
grave enough. -/
def writeAny (time : String) (sink : Sink) (record : Record) : String :=
  if isOurs record.logger then sink.write time record
  else if record.level.reaches outerThreshold then sink.bare time record
  else ""

end Sink

end Tabletop.Log
