import ReplicaSync.Gate

/-!
# A gate and its guards

Guards are kept under names, also after they have given the gate back, so that any sequence of
calls on one gate can be made: entering, finishing a pass, and giving up a guard.
-/

namespace ReplicaSync

/-- A call on a gate. -/
inductive GateCall where
  /-- Enters; the guard is kept under the name, and an older one of that name is given up. -/
  | enter (guard : String) (policy : TriggerPolicy)
  /-- Finishes a pass of the guard. -/
  | finish (guard : String)
  | drop (guard : String)
  deriving DecidableEq, Repr

/-- The answer to a call on a gate. -/
inductive GateAnswer where
  | entered
  | dropped
  | deferred
  | finished (again : Bool)
  | released
  | noGuard
  deriving DecidableEq, Repr

/-- A gate with the guards that are kept. -/
structure GateRehearsal where
  gate : Gate
  guards : List (String × Guard)
  deriving DecidableEq, Repr

namespace GateRehearsal

def new : GateRehearsal := ⟨.new, []⟩

def guard? (r : GateRehearsal) (name : String) : Option Guard := r.guards.lookup name

/-- Keeps a guard under a name. -/
def keep (r : GateRehearsal) (name : String) (guard : Guard) : GateRehearsal :=
  { r with guards := (name, guard) :: r.guards.filter fun entry => entry.1 ≠ name }

/-- Gives up the guard of a name, if there is one. -/
def giveUp (r : GateRehearsal) (name : String) : GateRehearsal :=
  match r.guard? name with
  | some guard => ⟨(guard.abandon r.gate).1, r.guards.filter fun entry => entry.1 ≠ name⟩
  | none => r

/-- Makes a call. -/
def call (r : GateRehearsal) : GateCall → GateRehearsal × GateAnswer
  | .enter name policy =>
    match r.gate.enter policy with
    | (gate, .entered guard) => (({ r with gate }.giveUp name).keep name guard, .entered)
    | (gate, .dropped) => ({ r with gate }, .dropped)
    | (gate, .deferred) => ({ r with gate }, .deferred)
  | .finish name =>
    match r.guard? name with
    | some guard =>
      let finish := guard.finish r.gate
      ({ r with gate := finish.gate }.keep name finish.guard, .finished finish.again)
    | none => (r, .noGuard)
  | .drop name =>
    match r.guard? name with
    | some _ => (r.giveUp name, .released)
    | none => (r, .noGuard)

/-- Makes calls one after the other; after each, its answer and the gate. -/
def run (r : GateRehearsal) : List GateCall → List (GateAnswer × Gate)
  | [] => []
  | call :: rest =>
    let (r, answer) := r.call call
    (answer, r.gate) :: r.run rest

end GateRehearsal

end ReplicaSync
