import ReplicaSync.Log.Entry
import ReplicaSync.Logging.Filter

/-!
# The configuration of logging

Which format is written, from which level on, and whether events are also handed to a sink. A
filter given as a text takes the place of the standard one.
-/

namespace ReplicaSync

/-- The formats of the log. -/
inductive LogFormat where
  /-- Several lines for an event, for people. -/
  | pretty
  /-- A JSON object for an event. -/
  | json
  /-- One line for an event. -/
  | compact
  deriving DecidableEq, Repr

def LogFormat.title : LogFormat → String
  | .pretty => "Pretty"
  | .json => "Json"
  | .compact => "Compact"

/-- What a sink does with an entry. -/
inductive SinkKind where
  | keep
  /-- Keeps the entry, and then fails. -/
  | fail
  | print
  deriving DecidableEq, Repr

/-- A sink, with the level from which on it is given entries. -/
structure LogSink where
  kind : SinkKind
  least : LogLevel
  deriving DecidableEq, Repr

structure LoggingConfig where
  format : LogFormat
  level : LogLevel
  filter : Option String
  sink : Option LogSink
  /-- Spans are shown. -/
  spans : Bool
  /-- Targets are shown. -/
  target : Bool
  /-- The thread is shown. -/
  thread : Bool
  deriving DecidableEq, Repr

namespace LoggingConfig

def standard : LoggingConfig := ⟨.pretty, .info, none, none, false, true, false⟩

/-- An optional text for a developer. -/
def shownOption : Option String → String
  | some text => s!"Some({Text.quoted text})"
  | none => "None"

/-- The configuration for a developer. -/
def shown (config : LoggingConfig) : String :=
  let truth (value : Bool) : String := if value then "true" else "false"
  let fields :=
    [("format", config.format.title), ("level", config.level.title),
     ("filter", shownOption config.filter),
     ("logger_sink", shownOption (config.sink.map fun _ => "LoggerSink \x7b ... \x7d")),
     ("enable_spans", truth config.spans), ("display_target", truth config.target),
     ("display_thread_info", truth config.thread)]
  let listed := ", ".intercalate (fields.map fun (name, value) => name ++ ": " ++ value)
  "LoggingConfig \x7b " ++ listed ++ " \x7d"

/-- The filter, as it was given or the standard one. -/
def buildFilter (config : LoggingConfig) : Except FilterFault LogFilter :=
  match config.filter with
  | none => .ok (.standard config.level)
  | some text => LogFilter.ofText text

/-- What setting up answers if the filter cannot be read; there is no answer if it breaks off. -/
def refusal? (fault : FilterFault) : Option SetupError :=
  fault.message?.map fun message => .config (.other ("Invalid log filter: " ++ message))

/-- Setting up logging a second time is refused. -/
def alreadySetUp : SetupError :=
  .config (.other ("Failed to initialize logging: " ++
    "a global default trace dispatcher has already been set"))

end LoggingConfig

end ReplicaSync
