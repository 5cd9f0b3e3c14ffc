import ReplicaSync.Decimal.Shortest
import ReplicaSync.Json.Basic
import ReplicaSync.Log.Entry

/-!
# What is logged, before it is written

An event has fields of several types, and it happens inside spans, which have fields as well. Each
format writes the values in its own way.
-/

namespace ReplicaSync

/-- The value of a field. -/
inductive FieldValue where
  | whole (value : Int)
  | bool (value : Bool)
  | measure (value : Measure)
  | text (value : String)
  /-- A text that is shown quoted. -/
  | quoted (value : String)
  | error (cause : AdapterError)
  deriving DecidableEq, Repr

namespace FieldValue

def boolText (value : Bool) : String := if value then "true" else "false"

/-- The value as a sink gets it. -/
def plain : FieldValue → String
  | .whole value => toString value
  | .bool value => boolText value
  | .measure value => value.text
  | .text value => value
  | .quoted value => Text.quoted value
  | .error cause => cause.message

/-- The value in a line for people: texts are quoted. -/
def shown : FieldValue → String
  | .text value => Text.quoted value
  | value => value.plain

/-- The value with its type, where JSON has one for it. -/
def toJson : FieldValue → Json
  | .whole value => .int value
  | .bool value => .bool value
  | .measure value =>
    .real value.isNegative value.written.digits value.written.exponent
  | value => .str value.plain

/-- The cause that a failure passes on, if it has one. -/
def source? : FieldValue → Option String
  | .error (.io reason) => some reason
  | _ => none

end FieldValue

/-- A stretch of the program, with what is known about it. -/
structure LogSpan where
  name : String
  target : String
  level : LogLevel
  fields : List (String × FieldValue)
  deriving DecidableEq, Repr

/-- Something that happened. -/
structure LogEvent where
  /-- The name that stands for a message if there is none. -/
  name : String
  level : LogLevel
  target : String
  message : Option String
  fields : List (String × FieldValue)
  deriving DecidableEq, Repr

/-- The fields that an event declares: its message, if it has one, and the others whether it has
them or not. -/
def LogEvent.declared (event : LogEvent) : List String :=
  let others := ["pass_id", "delta", "ok", "ratio", "trigger", "detail", "error"]
  if event.message.isSome then "message" :: others else others

/-- The record of an event for a sink. -/
def LogEvent.toRecord (event : LogEvent) (span : Option LogSpan) : LogRecord :=
  .make event.level event.target (span.map (·.name)) (event.message.getD event.name)
    (event.fields.map fun (key, value) => (key, value.plain))

end ReplicaSync
