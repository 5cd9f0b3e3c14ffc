import ReplicaSync.Event.Basic
import ReplicaSync.Log.Entry
import ReplicaSync.Path.Basic
import ReplicaSync.Pipeline.Basic
import ReplicaSync.Trigger

/-!
# What a task does

A task runs from one call of an adapter to the next without being interrupted. What it does on the
way is a list of acts; it then waits for the answer to the call.
-/

namespace ReplicaSync

/-- A call of an adapter, for whose answer the task waits. -/
inductive Call where
  | pull
  | push
  | announce (channel message : String)
  | subscribe (channel : String)
  | watch (root : Path) (ignored : List Path)
  deriving DecidableEq, Repr

/-- The answer of an adapter. -/
inductive Answer where
  | pulled (result : Except AdapterError PullResult)
  | pushed (result : Except AdapterError PushResult)
  /-- The answer to every other call. -/
  | replied (result : Except AdapterError Unit)

/-- How a task ended. -/
inductive Ending where
  | answered (outcome : RequestOutcome)
  | returned
  | stopped
  | panicked
  | aborted
  deriving DecidableEq, Repr

/-- One act of a task. -/
inductive Act where
  /-- A pass is requested. -/
  | request (trigger : Trigger)
  /-- The request is answered. -/
  | settle (outcome : RequestOutcome)
  | call (call : Call)
  /-- The task sleeps until the clock shows this. -/
  | sleep (wakeAt : Nat)
  | publish (event : Event)
  | log (record : LogRecord)
  | finish (ending : Ending)
  deriving DecidableEq

end ReplicaSync
