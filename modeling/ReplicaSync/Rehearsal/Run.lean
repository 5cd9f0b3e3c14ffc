import ReplicaSync.Rehearsal.Clock

/-!
# Runs of a rehearsal

A rehearsal is given one instruction after the other. After each it reports what happened since the
last report.
-/

namespace ReplicaSync.Rehearsal

/-! ### Instructions -/

/-- One instruction of a rehearsal. -/
inductive Instruction where
  | request (trigger : Trigger)
  /-- The watcher reports a settled batch of changes. -/
  | change
  /-- A message comes in. -/
  | message (channel payload : String)
  | start (cancelled forever : Bool)
  | cancel (loop : Nat)
  | abortLoop (loop : Nat)
  | abort (task : Nat)
  | release (permits : Nat)
  | advance (ms : Nat)
  | raw (event : RawEvent)
  | rawError (text : String)
  /-- The next creation of a watch fails. -/
  | failCreation (text : String)
  /-- The next watch on a directory fails. -/
  | failWatching (text : String)
  deriving DecidableEq, Repr

/-- Begins a task under the next number of the instructions. -/
def beginTask (r : Rehearsal) (errand : Errand) : Rehearsal :=
  { r with tasks := r.tasks ++ [some r.world.tasks.length] }.perform (.start errand false)

/-- The next number goes to a task that does not begin. -/
def skipTask (r : Rehearsal) : Rehearsal := { r with tasks := r.tasks ++ [none] }

/-- Drops a task, with all it waits for. -/
def dropTask (r : Rehearsal) (task : Nat) : Rehearsal :=
  let r := (r.clearTimer (.wake task)).clearTimer (.phase task)
  let r := if r.waiting = some task then { r with waiting := none } else r
  r.perform (.drop task)

/-- Permits come in; a phase that waits for one takes it. -/
def release (r : Rehearsal) (permits : Nat) : Rehearsal :=
  match r.waiting, r.permits + permits with
  | some task, left + 1 =>
    match { r with permits := left, waiting := none }.proceed task with
    | (r, some next) => r.perform next
    | (r, none) => r
  | _, total => { r with permits := total }

/-- The watcher takes in an event; a quiet period begins anew. -/
def raw (r : Rehearsal) (event : RawEvent) : Rehearsal :=
  let r := (r.move (.raw event)).1
  match r.world.watcher.watch with
  | some ⟨_, ignored, _, some due⟩ =>
    if event.isRelevant ignored then
      ((r.clearTimer .quietPeriod).setTimer due .quietPeriod).runDue
    else r
  | _ => r

/-- Carries out an instruction. -/
def carryOut (r : Rehearsal) : Instruction → Rehearsal
  | .request trigger => r.beginTask (.request trigger)
  | .change => if r.hasChangeCallback then r.beginTask .change else r.skipTask
  | .message channel payload =>
    if r.hasMessageCallback then r.beginTask (.message channel payload) else r.skipTask
  | .start cancelled forever =>
    { r with loops := r.loops ++ [r.world.tasks.length] }.perform
      (.start (.loop forever) (cancelled && !forever))
  | .cancel loop =>
    match r.loops[loop]? with
    | some task =>
      let r := r.perform (.cancel task)
      match (r.world.tasks[task]?).map Task.stage with
      | some (.over _) => r.clearTimer (.wake task)
      | _ => r
    | none => r
  | .abortLoop loop =>
    match r.loops[loop]? with
    | some task => r.dropTask task
    | none => r
  | .abort number =>
    match r.tasks[number]?.join with
    | some task => r.dropTask task
    | none => r
  | .release permits => r.release permits
  | .advance ms => r.advance ms
  | .raw event => r.raw event
  | .rawError text => r.perform (.rawError text)
  | .failCreation text => { r with faults := { r.faults with creation := some text } }
  | .failWatching text => { r with faults := { r.faults with watching := some text } }

/-! ### Reports -/

/-- What happened since the last report. -/
structure Report where
  state : SyncState
  calls : List String
  events : List Reading
  /-- The tasks that ended, by number. -/
  done : List (Nat × Ending)
  announced : List (String × String)
  subscribed : List String
  watched : List WatchedRoot
  /-- Which of the loops are running. -/
  loops : List Bool
  records : List LogRecord

/-- The adapters are stand-ins. -/
def usesStandIns (r : Rehearsal) : Bool :=
  match r.adapters with
  | .standIns _ => true
  | .desktop _ => false

/-- The calls that the adapters record. -/
def calls (r : Rehearsal) : List Call :=
  r.notes.filterMap fun note =>
    match note.act with
    | .call .pull => some .pull
    | .call .push => some .push
    | .call call => if r.usesStandIns then some call else none
    | _ => none

/-- The name under which a call is recorded. -/
def callName? : Call → Option String
  | .pull => some "pull"
  | .push => some "push"
  | .subscribe _ => some "subscribe"
  | .watch _ _ => some "watch"
  | .announce _ _ => none

/-- The tasks that ended, by the numbers of the instructions. -/
def done (r : Rehearsal) : List (Nat × Ending) :=
  (List.range r.tasks.length).filterMap fun number => do
    let task ← r.tasks[number]?.join
    let ending ← r.notes.findSome? fun note =>
      match note.act with
      | .finish ending => if note.task = some task then some ending else none
      | _ => none
    return (number, ending)

/-- The loop has not ended. -/
def isRunning (r : Rehearsal) (task : Nat) : Bool :=
  match (r.world.tasks[task]?).map Task.stage with
  | some (.over _) | none => false
  | some _ => true

/-- The number of the stream through which the events are observed. -/
def observer : Nat := 0

/-- Reports what happened, and begins the next report. -/
def report (r : Rehearsal) : Rehearsal × Report :=
  let calls := r.calls
  let (bus, events) := r.world.bus.drain (r.world.bus.ring.size + 2) observer
  ({ r with world := { r.world with bus }, recent := [], watched := [] },
    { events
      state := r.world.shared.gate.state
      calls := calls.filterMap callName?
      done := r.done
      announced := calls.filterMap fun
        | .announce channel message => some (channel, message)
        | _ => none
      subscribed := calls.filterMap fun
        | .subscribe channel => some channel
        | _ => none
      watched := r.watched
      loops := r.loops.map r.isRunning
      records := r.notes.filterMap fun note =>
        match note.act with
        | .log record => some record
        | _ => none })

/-- Sets the stage: one observer of the events, and the first attempt of a client to connect. -/
def setUp (coordinator : Coordinator) (records : List LogRecord)
    (resolve : Option (Path → Option Path)) (adapters : Adapters) (passes : List PassScript)
    (ring : EventRing) : Rehearsal :=
  let bus := ((EventBus.new ring).subscribe none).1
  let r : Rehearsal :=
    { world := .new coordinator resolve bus
      adapters, passes
      pulls := 0
      permits := 0
      waiting := none
      timers := []
      tickets := 0
      hasChangeCallback := false
      hasMessageCallback := false
      tasks := []
      loops := []
      faults := .none
      watched := []
      recent := [] }
  (r.remark records).tryConnect

/-- The reports of a rehearsal, one after each instruction. -/
def run (r : Rehearsal) : List Instruction → List Report
  | [] => []
  | instruction :: rest =>
    let (r, report) := (r.carryOut instruction).report
    report :: r.run rest

end ReplicaSync.Rehearsal
