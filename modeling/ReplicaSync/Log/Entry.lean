import ReplicaSync.Json.Schema
import ReplicaSync.Log.Fields
import ReplicaSync.Log.Level
import ReplicaSync.Time.Rfc3339

/-!
# Log entries

A record says what happened, where, and inside which span. An entry is a record with the instant
at which it was made. It has a line of text for people, and a JSON form that is read back without
loss.
-/

namespace ReplicaSync

/-- What is logged, without the time. -/
structure LogRecord where
  level : LogLevel
  target : String
  message : String
  fields : LogFields
  /-- The innermost span in which it was made. -/
  span : Option String
  deriving DecidableEq

/-- A record with these fields, written one after the other. -/
def LogRecord.make (level : LogLevel) (target : String) (span : Option String) (message : String)
    (fields : List (String × String)) : LogRecord :=
  ⟨level, target, message, .ofList fields, span⟩

/-- The text, moved to the right end of a column. -/
def LogRecord.alignRight (width : Nat) (text : String) : String :=
  String.ofList (List.replicate (width - text.length) ' ') ++ text

/-- The line for people, with `stamp` for the time. -/
def LogRecord.line (record : LogRecord) (stamp : String) : String :=
  let heading := alignRight 5 record.level.heading
  let fields := record.fields.entries.map fun (key, value) => s!" {key}={value}"
  s!"[{stamp}] {heading} {record.target}: {record.message}" ++ String.join fields

/-- A record and the instant at which it was made. -/
structure LogEntry where
  timestamp : Instant
  record : LogRecord
  deriving DecidableEq

namespace LogEntry

/-- The line for people. -/
def display (entry : LogEntry) : String := entry.record.line entry.timestamp.logText

def toJson (entry : LogEntry) : Json :=
  .obj [("level", .str entry.record.level.title),
    ("timestamp", .str entry.timestamp.rfc3339),
    ("target", .str entry.record.target),
    ("message", .str entry.record.message),
    ("fields", .obj (entry.record.fields.entries.map fun (key, value) => (key, .str value))),
    ("span", .ofOption .str entry.record.span)]

/-- Reads the fields: an object of texts. -/
def fieldsOfJson? : Json → Option LogFields
  | .obj members => do
    return .ofList (← members.mapM fun (key, value) => do return (key, ← value.str?))
  | _ => none

/-- Reads the timestamp: a text with an offset, which is taken to the same instant. -/
def timestampOfJson? (j : Json) : Option Instant := do Instant.ofRfc3339? (← j.str?)

def ofJson? (j : Json) : Option LogEntry := do
  match ← j.fields? ["level", "timestamp", "target", "message", "fields", "span"] with
  | [level, timestamp, target, message, fields, span] =>
    let level ← Json.required? (Json.choice? LogLevel.titled) level
    let timestamp ← Json.required? timestampOfJson? timestamp
    let target ← Json.required? Json.str? target
    let message ← Json.required? Json.str? message
    let fields ← Json.required? fieldsOfJson? fields
    let span ← Json.optional? Json.str? span
    return ⟨timestamp, level, target, message, fields, span⟩
  | _ => none

end LogEntry

/-! ### A sink for people -/

/-- Prints entries from a level on, one line each; it never fails. -/
structure Console where
  least : LogLevel

namespace Console

def standard : Console := ⟨.info⟩

/-- The lines that an entry adds. -/
def lines (console : Console) (entry : LogEntry) : List String :=
  if entry.record.level.reaches console.least then [entry.display] else []

end Console

end ReplicaSync
