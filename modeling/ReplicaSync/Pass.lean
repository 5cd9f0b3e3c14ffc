import ReplicaSync.Log.Entry
import ReplicaSync.Pipeline.Basic
import ReplicaSync.Trigger

/-!
# One pass

A pass pulls and, if that went well, pushes. It counts as a change if and only if the push applied
changes and its change set has something new, changed or deleted; what the pull found does not
matter.
-/

namespace ReplicaSync

/-- What a pass came to. -/
inductive PassOutcome where
  | noChanges
  | changes (changes : ChangeSet)
  | failed (error : SyncError)
  deriving DecidableEq, Repr

namespace PassOutcome

def status : PassOutcome → PassStatus
  | .noChanges => .noChanges
  | .changes _ => .changes
  | .failed _ => .failed

def hasChanges : PassOutcome → Bool
  | .changes _ => true
  | _ => false

/-- The outcome of a pass whose push gave this result. -/
def ofPush (result : PushResult) : PassOutcome :=
  if result.uploaded then .changes result.changes else .noChanges

end PassOutcome

namespace Pass

/-- A record of the two phases. -/
def note (message : String) (fields : List (String × String)) : LogRecord :=
  .make .debug "core_sync::runner" (some "run") message fields

def pullFinished (result : PullResult) : LogRecord :=
  note "Pull phase finished"
    [("result", result.code.name), ("databases_applied", toString result.databasesApplied)]

def pushFinished (result : PushResult) : LogRecord :=
  note "Push phase finished"
    [("result", result.code.name), ("changes", toString result.changes.count)]

end Pass

end ReplicaSync
