import ReplicaSync.Trigger

/-!
# The gate before a pass

The state is idle or running, and the two alternate. The gate lets a request in only if the state
is idle; the request then holds a guard and owns the pass. Under the coalescing policy a refused
request leaves a mark, and the owner runs one more pass for all marks left during the last one.
Giving the gate back clears the mark; a guard gives it back once.
-/

namespace ReplicaSync

/-! ### The state -/

/-- Whether a pass is running. -/
inductive SyncState where
  | idle
  | running
  deriving DecidableEq, Repr, Inhabited

namespace SyncState

def name : SyncState → String
  | .idle => "idle"
  | .running => "running"

/-- Moves to the other state; a move to the same one is refused. -/
def transition (source target : SyncState) : Except SyncError SyncState :=
  if source = target then .error (.badTransition source.name target.name) else .ok target

end SyncState

/-! ### The gate -/

/-- The only state that all requests share. -/
structure Gate where
  state : SyncState
  /-- A follow-up pass is owed. -/
  pending : Bool
  deriving DecidableEq, Repr

/-- The claim of the owner of a pass on the gate. -/
structure Guard where
  released : Bool
  deriving DecidableEq, Repr

/-- The answer to a request. -/
inductive Admission where
  | entered (guard : Guard)
  | dropped
  | deferred
  deriving DecidableEq, Repr

namespace Gate

def new : Gate := ⟨.idle, false⟩

/-- Lets a request in if no pass is running, and treats it by the policy otherwise. -/
def enter (gate : Gate) (policy : TriggerPolicy) : Gate × Admission :=
  match gate.state.transition .running with
  | .ok next => (⟨next, false⟩, .entered ⟨false⟩)
  | .error _ =>
    match policy with
    | .drop => (gate, .dropped)
    | .coalesce => ({ gate with pending := true }, .deferred)

/-- Back to idle, with no pass owed. -/
def release (gate : Gate) : Except SyncError Gate :=
  (gate.state.transition .idle).map (⟨·, false⟩)

end Gate

namespace Guard

/-- What finishing a pass leaves: the gate, the guard, whether one more pass is to run, and the
complaint of a gate that was idle already. -/
structure Finish where
  gate : Gate
  guard : Guard
  again : Bool
  complaint : Option SyncError

/-- After a pass: keeps the gate if a pass is owed, and gives it back otherwise. -/
def finish (guard : Guard) (gate : Gate) : Finish :=
  if guard.released then ⟨gate, guard, false, none⟩
  else if gate.pending then ⟨{ gate with pending := false }, guard, true, none⟩
  else match gate.release with
    | .ok free => ⟨free, ⟨true⟩, false, none⟩
    | .error error => ⟨gate, ⟨true⟩, false, some error⟩

/-- The guard goes away, its pass finished or not. -/
def abandon (guard : Guard) (gate : Gate) : Gate × Option SyncError :=
  if guard.released then (gate, none)
  else match gate.release with
    | .ok free => (free, none)
    | .error error => (gate, some error)

end Guard

end ReplicaSync
