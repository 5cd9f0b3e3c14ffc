import ReplicaSync.Event.Basic
import ReplicaSync.Json.Memory
import ReplicaSync.Json.Schema
import ReplicaSync.Trigger

/-!
# Triggers and events as JSON

An event is an object with its kind under `type` and its data under `payload`, or an array of the
two; the data carry the name of the event under `event`. A trigger carries its name under `source`.
Since such a name may stand behind the data, a trigger and the data of an event are kept in memory
before they are read. In an object the kind may be wrapped as an object itself, and the name of the
event may be given by its position if the payload stands before the kind; in an array both are
plain names.
-/

namespace ReplicaSync

/-! ### Names without data -/

def PassStatus.name : PassStatus → String
  | .noChanges => "no_changes"
  | .changes => "changes"
  | .failed => "failed"

def PassStatus.named : List (String × PassStatus) :=
  [("no_changes", .noChanges), ("changes", .changes), ("failed", .failed)]

/-! ### Triggers -/

namespace Trigger

def toJson : Trigger → Json
  | .timer => .obj [("source", .str "timer")]
  | .fileChange => .obj [("source", .str "file_system_change")]
  | .notification channel payload =>
    .obj [("source", .str "remote_notification"), ("channel", .str channel),
      ("payload", .str payload)]

/-- Reads a trigger that is kept in memory. -/
def ofKept? (j : Json) : Option Trigger := do
  match ← j.tagged? "source" with
  | (.str "timer", rest) => if rest.isBare then some .timer else none
  | (.str "file_system_change", rest) => if rest.isBare then some .fileChange else none
  | (.str "remote_notification", rest) =>
    match ← rest.fields? ["channel", "payload"] with
    | [channel, payload] =>
      return .notification (← Json.required? Json.str? channel) (← Json.required? Json.str? payload)
    | _ => none
  | _ => none

def ofJson? (j : Json) : Option Trigger := (j.kept? Json.nestingLimit).bind ofKept?

end Trigger

/-! ### Events -/

/-- A name out of a list, or its position in it. -/
def nameAt? (names : List String) : Json → Option String
  | .str name => some name
  | .int position => if 0 ≤ position then names[position.toNat]? else none
  | _ => none

namespace SyncEvent

def toJson : SyncEvent → Json
  | .started passId trigger =>
    .obj [("event", .str "Started"), ("pass_id", .ofNat passId), ("trigger", .str trigger)]
  | .completed passId changesApplied durationMs =>
    .obj [("event", .str "Completed"), ("pass_id", .ofNat passId),
      ("changes_applied", .bool changesApplied), ("duration_ms", .ofNat durationMs)]
  | .failed passId message =>
    .obj [("event", .str "Failed"), ("pass_id", .ofNat passId), ("message", .str message)]
  | .dropped trigger => .obj [("event", .str "Dropped"), ("trigger", .str trigger)]
  | .deferred trigger => .obj [("event", .str "Deferred"), ("trigger", .str trigger)]
  | .announced channel => .obj [("event", .str "Announced"), ("channel", .str channel)]

/-- The names in the order of their positions. -/
def names : List String :=
  ["Started", "Completed", "Failed", "Dropped", "Deferred", "Announced"]

def name : SyncEvent → String
  | .started .. => "Started"
  | .completed .. => "Completed"
  | .failed .. => "Failed"
  | .dropped .. => "Dropped"
  | .deferred .. => "Deferred"
  | .announced .. => "Announced"

/-- Reads the data of the event with this name. -/
def ofFields? (name : String) (data : Json) : Option SyncEvent :=
  match name with
  | "Started" => do
    match ← data.fields? ["pass_id", "trigger"] with
    | [passId, trigger] =>
      return .started (← Json.required? (Json.nat? 64) passId) (← Json.required? Json.str? trigger)
    | _ => none
  | "Completed" => do
    match ← data.fields? ["pass_id", "changes_applied", "duration_ms"] with
    | [passId, changesApplied, durationMs] =>
      return .completed (← Json.required? (Json.nat? 64) passId)
        (← Json.required? Json.bool? changesApplied) (← Json.required? (Json.nat? 64) durationMs)
    | _ => none
  | "Failed" => do
    match ← data.fields? ["pass_id", "message"] with
    | [passId, message] =>
      return .failed (← Json.required? (Json.nat? 64) passId) (← Json.required? Json.str? message)
    | _ => none
  | "Dropped" => do
    match ← data.fields? ["trigger"] with
    | [trigger] => return .dropped (← Json.required? Json.str? trigger)
    | _ => none
  | "Deferred" => do
    match ← data.fields? ["trigger"] with
    | [trigger] => return .deferred (← Json.required? Json.str? trigger)
    | _ => none
  | "Announced" => do
    match ← data.fields? ["channel"] with
    | [channel] => return .announced (← Json.required? Json.str? channel)
    | _ => none
  | _ => none

end SyncEvent

namespace WatchEvent

def toJson : WatchEvent → Json
  | .watcherStarted root => .obj [("event", .str "WatcherStarted"), ("root", .str root)]
  | .watcherUnavailable reason =>
    .obj [("event", .str "WatcherUnavailable"), ("reason", .str reason)]
  | .subscribed channel => .obj [("event", .str "Subscribed"), ("channel", .str channel)]
  | .notificationReceived channel =>
    .obj [("event", .str "NotificationReceived"), ("channel", .str channel)]

/-- The names in the order of their positions. -/
def names : List String :=
  ["WatcherStarted", "WatcherUnavailable", "Subscribed", "NotificationReceived"]

def name : WatchEvent → String
  | .watcherStarted .. => "WatcherStarted"
  | .watcherUnavailable .. => "WatcherUnavailable"
  | .subscribed .. => "Subscribed"
  | .notificationReceived .. => "NotificationReceived"

/-- Reads the data of the event with this name. -/
def ofFields? (name : String) (data : Json) : Option WatchEvent :=
  match name with
  | "WatcherStarted" => do
    match ← data.fields? ["root"] with
    | [root] => return .watcherStarted (← Json.required? Json.str? root)
    | _ => none
  | "WatcherUnavailable" => do
    match ← data.fields? ["reason"] with
    | [reason] => return .watcherUnavailable (← Json.required? Json.str? reason)
    | _ => none
  | "Subscribed" => do
    match ← data.fields? ["channel"] with
    | [channel] => return .subscribed (← Json.required? Json.str? channel)
    | _ => none
  | "NotificationReceived" => do
    match ← data.fields? ["channel"] with
    | [channel] => return .notificationReceived (← Json.required? Json.str? channel)
    | _ => none
  | _ => none

end WatchEvent

namespace Event

/-- The two kinds of events by name. -/
inductive Kind where
  | sync
  | watch
  deriving DecidableEq, Repr

def Kind.named : List (String × Kind) := [("Sync", .sync), ("Watch", .watch)]

def toJson : Event → Json
  | .sync event => .obj [("type", .str "Sync"), ("payload", event.toJson)]
  | .watch event => .obj [("type", .str "Watch"), ("payload", event.toJson)]

/-- Reads the payload of an event of this kind, which is kept in memory; `byPosition` says whether a
name may be given by its position. -/
def ofKept? (kind : Kind) (byPosition : Bool) (payload : Json) : Option Event := do
  let (tag, data) ← payload.tagged? "event"
  match kind with
  | .sync =>
    let name ← if byPosition then nameAt? SyncEvent.names tag else tag.str?
    return .sync (← SyncEvent.ofFields? name data)
  | .watch =>
    let name ← if byPosition then nameAt? WatchEvent.names tag else tag.str?
    return .watch (← WatchEvent.ofFields? name data)

/-- Reads the payload of an event of this kind. It lies in an object or an array already. -/
def ofPayload? (kind : Kind) (byPosition : Bool) (payload : Json) : Option Event :=
  (payload.kept? (Json.nestingLimit - 1)).bind (ofKept? kind byPosition)

def ofJson? : Json → Option Event
  | .obj members => do
    match ← Json.fields? ["type", "payload"] (.obj members) with
    | [kind, payload] =>
      let kind ← Json.required? (Json.choice? Kind.named) kind
      ofPayload? kind (Json.leads "payload" "type" members) (← payload)
    | _ => none
  | .arr [.str kind, payload] => do
    ofPayload? (← Kind.named.lookup kind) false payload
  | _ => none

/-- The name of an event without its kind. -/
def name : Event → String
  | .sync event => event.name
  | .watch event => event.name

/-- The event has this name. -/
def isNamed (name : String) (event : Event) : Bool := event.name = name

/-- The event is of the kind with this name. -/
def isOfKind (kind : String) : Event → Bool
  | .sync _ => kind = "Sync"
  | .watch _ => kind = "Watch"

end Event

end ReplicaSync
