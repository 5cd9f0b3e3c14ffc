import ReplicaSync.Rehearsal.Basic

/-!
# How the adapters respond

The pipeline follows its script: a phase that blocks takes a permit or waits for one, then its delay
passes, and then it ends. Every other call is answered at once. A task is followed from one call to
the next until it has to wait.
-/

namespace ReplicaSync.Rehearsal

/-- How the phase goes for which a task waits, and the move that ends it. -/
structure PhasePlan where
  blocks : Bool
  delay : Nat
  ending : Move

/-- The plan for a phase of a task; `answer` makes an answer of the result. -/
def planOf (task : Nat) (answer : Except AdapterError α → Answer) (script : PhaseScript α) :
    PhasePlan :=
  { blocks := script.blocks
    delay := script.delay
    ending := match script.ending with
      | .ok result => .answer task (answer (.ok result))
      | .error cause => .answer task (answer (.error cause))
      | .panic => .panic task }

/-- The plan for the phase for which a task waits, if it waits for one. -/
def plan? (r : Rehearsal) (task : Nat) : Option PhasePlan :=
  let script := PassScript.forPass r.passes (r.pulls - 1)
  match (r.world.tasks[task]?).map Task.stage with
  | some (.flying flight) =>
    match flight.stage with
    | .pulling => some (planOf task .pulled script.pull)
    | .pushing => some (planOf task .pushed script.push)
    | .announcing => none
  | _ => none

/-- The phase of a task has its permit: it ends at once or after its delay. -/
def proceed (r : Rehearsal) (task : Nat) : Rehearsal × Option Move :=
  match r.plan? task with
  | none => (r, none)
  | some plan =>
    if plan.delay = 0 then (r, some plan.ending)
    else (r.setTimer (r.world.now + (Duration.ofMillis plan.delay).sleepTicks) (.phase task), none)

/-- A phase of a task begins. -/
def beginPhase (r : Rehearsal) (task : Nat) : Rehearsal × Option Move :=
  match (r.plan? task).any (·.blocks), r.permits with
  | true, 0 => ({ r with waiting := some task }, none)
  | true, left + 1 => { r with permits := left }.proceed task
  | false, _ => r.proceed task

/-- Takes over what the client of the desktop did. -/
def withClient (r : Rehearsal) (client : Fanout.Client) (acts : List Fanout.ClientAct) :
    Rehearsal :=
  { r with adapters := .desktop (some client) }.remark (Fanout.Client.records acts)

/-- What the adapters answer to a call that is no phase. -/
def replyTo (r : Rehearsal) (call : Call) : Rehearsal × Except AdapterError Unit :=
  match r.adapters, call with
  | .standIns answers, .subscribe _ =>
    ({ r with hasMessageCallback := r.hasMessageCallback || answers.subscribe.isOk },
      answers.subscribe)
  | .standIns answers, .watch root ignored =>
    ({ r with
        hasChangeCallback := r.hasChangeCallback || answers.watch.isOk
        watched := r.watched ++ [.standIn root ignored] },
      answers.watch)
  | .standIns answers, .announce _ _ =>
    ({ r with adapters := .standIns { answers with announce := answers.announce.tail } },
      answers.announce.head?.getD (.ok ()))
  | .desktop (some client), .subscribe channel =>
    let (client, acts) := client.subscribeNow channel 0
    (r.withClient client acts, Fanout.Client.verdict acts)
  | .desktop (some client), .announce channel message =>
    let (client, acts) := client.announce channel message
    (r.withClient client acts, Fanout.Client.verdict acts)
  | .desktop _, .watch root ignored =>
    let resolve := r.world.resolve.getD fun _ => none
    let attempt := r.world.watcher.start resolve root ignored 0 r.faults
    let r := { r with faults := r.faults.spend }
    match attempt with
    | .ok _ => ({ r with watched := r.watched ++ [.recursive root] }, .ok ())
    | .error error => (r, .error error)
  | _, _ => (r, .ok ())

/-- What a task does next that has come to a call, or nothing if it has to wait. -/
def respond (r : Rehearsal) (task : Nat) : Call → Rehearsal × Option Move
  | .pull => { r with pulls := r.pulls + 1 }.beginPhase task
  | .push => r.beginPhase task
  | call =>
    let (r, result) := r.replyTo call
    (r, some (.answer task (.replied result)))

/-- The number of calls after which a task waits: a loop may subscribe, start its watcher, run a
pass and one that is owed, each with three calls, and then sleeps. -/
def patience : Nat := 10

/-- Follows a task from one call to the next until it waits. -/
def follow : Nat → Rehearsal → List Note → Rehearsal
  | 0, r, _ => r
  | steps + 1, r, notes =>
    match notes.getLast? with
    | some ⟨_, some task, .call call⟩ =>
      match r.respond task call with
      | (r, some next) =>
        let (r, notes) := r.move next
        follow steps r notes
      | (r, none) => r
    | some ⟨_, some task, .sleep wakeAt⟩ => r.setTimer wakeAt (.wake task)
    | _ => r

/-- Makes a move, and lets the task that it concerns go on until it waits. -/
def perform (r : Rehearsal) (move : Move) : Rehearsal :=
  let (r, notes) := r.move move
  follow patience r notes

end ReplicaSync.Rehearsal
