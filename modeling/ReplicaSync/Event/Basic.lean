/-!
# Events

The coordinator tells observers what it does with every trigger and what becomes of its sources.
Each event has a description and a severity, by which observers filter.
-/

namespace ReplicaSync

/-- What happened to a trigger or a pass. -/
inductive SyncEvent where
  | started (passId : Nat) (trigger : String)
  | completed (passId : Nat) (changesApplied : Bool) (durationMs : Nat)
  | failed (passId : Nat) (message : String)
  | dropped (trigger : String)
  | deferred (trigger : String)
  | announced (channel : String)
  deriving DecidableEq, Repr

/-- What happened to a source of triggers. -/
inductive WatchEvent where
  | watcherStarted (root : String)
  | watcherUnavailable (reason : String)
  | subscribed (channel : String)
  | notificationReceived (channel : String)
  deriving DecidableEq, Repr

/-- An event of either kind. -/
inductive Event where
  | sync (event : SyncEvent)
  | watch (event : WatchEvent)
  deriving DecidableEq, Repr

/-- How much an event matters, from least to most. -/
inductive Severity where
  | debug
  | info
  | warning
  | error
  deriving DecidableEq, Repr

namespace Severity

def rank : Severity → Nat
  | .debug => 0
  | .info => 1
  | .warning => 2
  | .error => 3

def name : Severity → String
  | .debug => "Debug"
  | .info => "Info"
  | .warning => "Warning"
  | .error => "Error"

def named : List (String × Severity) :=
  [("Debug", .debug), ("Info", .info), ("Warning", .warning), ("Error", .error)]

end Severity

def SyncEvent.description : SyncEvent → String
  | .started .. => "Sync pass started"
  | .completed .. => "Sync pass completed"
  | .failed .. => "Sync pass failed"
  | .dropped .. => "Trigger dropped while a pass was running"
  | .deferred .. => "Trigger deferred until the running pass finishes"
  | .announced .. => "Change announced to other replicas"

def WatchEvent.description : WatchEvent → String
  | .watcherStarted .. => "File watcher started"
  | .watcherUnavailable .. => "File watcher unavailable"
  | .subscribed .. => "Subscribed to notification channel"
  | .notificationReceived .. => "Remote change notification received"

namespace Event

def description : Event → String
  | .sync event => event.description
  | .watch event => event.description

def severity : Event → Severity
  | .sync (.failed ..) => .error
  | .watch (.watcherUnavailable ..) => .warning
  | .sync (.completed ..) | .sync (.announced ..) => .info
  | .watch (.watcherStarted ..) | .watch (.subscribed ..) => .info
  | _ => .debug

/-- The event matters at least as much as `least`. -/
def reaches (least : Severity) (event : Event) : Bool := least.rank ≤ event.severity.rank

end Event

end ReplicaSync
