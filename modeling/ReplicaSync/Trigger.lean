import ReplicaSync.Failure
import ReplicaSync.Text.Lowercase

/-!
# Triggers and what becomes of them

A pass is requested by the timer, by a settled batch of file changes or by a message from another
replica. The policy decides about a trigger that arrives while a pass is running. Whoever made the
request learns whether it ran passes, and if so how the last of them ended.
-/

namespace ReplicaSync

/-! ### Triggers -/

/-- Why a pass is requested. -/
inductive Trigger where
  | timer
  | fileChange
  | notification (channel payload : String)
  deriving DecidableEq, Repr

/-- The short name in logs and events. -/
def Trigger.label : Trigger → String
  | .timer => "timer"
  | .fileChange => "filesystem"
  | .notification _ _ => "notification"

/-! ### Policies -/

/-- What happens to a trigger that arrives while a pass is running. -/
inductive TriggerPolicy where
  /-- It is forgotten. -/
  | drop
  /-- It is remembered, and one more pass is owed. -/
  | coalesce
  deriving DecidableEq, Repr, Inhabited

namespace TriggerPolicy

def name : TriggerPolicy → String
  | .drop => "drop"
  | .coalesce => "coalesce"

/-- The policies by name. -/
def named : List (String × TriggerPolicy) := [("drop", .drop), ("coalesce", .coalesce)]

/-- Reads a name in any case. -/
def ofText (text : String) : Except ConfigFault TriggerPolicy :=
  match named.lookup (Text.lowercase text) with
  | some policy => .ok policy
  | none => .error (.unknownPolicy text)

end TriggerPolicy

/-! ### Outcomes -/

/-- How a pass ended. -/
inductive PassStatus where
  | noChanges
  | changes
  | failed
  deriving DecidableEq, Repr

/-- What a request that ran passes tells its caller: their number, how the last one ended, and its
error if it failed. -/
structure PassReport where
  passes : Nat
  last : PassStatus
  error : Option String
  deriving DecidableEq, Repr

def PassReport.failed (report : PassReport) : Bool := report.last = .failed

/-- What became of a request. -/
inductive RequestOutcome where
  | executed (report : PassReport)
  | dropped
  | deferred
  deriving DecidableEq, Repr

def RequestOutcome.wasExecuted : RequestOutcome → Bool
  | .executed _ => true
  | _ => false

def RequestOutcome.report? : RequestOutcome → Option PassReport
  | .executed report => some report
  | _ => none

end ReplicaSync
