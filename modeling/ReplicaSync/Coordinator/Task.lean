import ReplicaSync.Coordinator.Flight

/-!
# Tasks

A pass is requested by a caller, by the callback for file changes, by the callback for messages,
or by the watch loop. Callbacks report a failed request; the loop reports how its request ended,
sleeps for the interval and makes the next one. Cancelling a loop lets a running request finish
and then ends the loop.
-/

namespace ReplicaSync

/-- What a task is there for. -/
inductive Errand where
  | request (trigger : Trigger)
  | change
  | message (channel payload : String)
  /-- The watch loop; one that runs forever cannot be cancelled. -/
  | loop (forever : Bool)
  deriving DecidableEq, Repr

/-- Where a task stands. -/
inductive Stage where
  | ready
  | subscribing
  | watching
  | flying (flight : Flight)
  | sleeping (wakeAt : Nat)
  | over (ending : Ending)
  deriving DecidableEq, Repr

structure Task where
  errand : Errand
  cancelled : Bool
  stage : Stage
  deriving DecidableEq, Repr

/-- What a stretch of a task leaves behind. -/
structure TaskStep where
  shared : Shared
  task : Task
  acts : List Act

namespace Task

/-- A record made outside any span. -/
def note (level : LogLevel) (message : String) (fields : List (String × String)) : Act :=
  .log (.make level Coordinator.target none message fields)

def finish (shared : Shared) (task : Task) (ending : Ending) (acts : List Act) : TaskStep :=
  ⟨shared, { task with stage := .over ending }, acts ++ [.finish ending]⟩

/-- The error of an outcome whose last pass failed. -/
def failure? : RequestOutcome → Option String
  | .executed report => if report.failed then some (report.error.getD "") else none
  | _ => none

/-- The end of a loop. -/
def stop (shared : Shared) (task : Task) (acts : List Act) : TaskStep :=
  finish shared task .stopped (acts ++ [note .info "Watch loop stopped" []])

/-- The record of a loop on the request that it made. -/
def loopRecord (config : WatchConfig) (outcome : RequestOutcome) : Act :=
  match failure? outcome with
  | some error =>
    note .warn s!"Sync FAILED, waiting {config.interval.secs} seconds ..." [("error", error)]
  | none => note .info s!"Sync done, waiting {config.interval.secs} seconds ..." []

/-- The request of a task was answered. -/
def afterRequest (coordinator : Coordinator) (now : Nat) (shared : Shared) (task : Task)
    (outcome : RequestOutcome) (acts : List Act) : TaskStep :=
  match task.errand with
  | .request _ => finish shared task (.answered outcome) acts
  | .change | .message _ _ =>
    match failure? outcome with
    | some error =>
      finish shared task .returned
        (acts ++ [note .warn "Sync FAILED (event-triggered)." [("error", error)]])
    | none => finish shared task .returned acts
  | .loop _ =>
    let acts := acts ++ [loopRecord coordinator.config outcome]
    if task.cancelled then stop shared task acts
    else
      let wakeAt := now + coordinator.config.interval.sleepTicks
      ⟨shared, { task with stage := .sleeping wakeAt }, acts ++ [.sleep wakeAt]⟩

/-- A stretch of a request, seen from the task that made it. -/
def ofRequest (coordinator : Coordinator) (now : Nat) (task : Task) (acts : List Act)
    (step : RequestStep) : TaskStep :=
  match step.state with
  | .flying flight => ⟨step.shared, { task with stage := .flying flight }, acts ++ step.acts⟩
  | .settled outcome => afterRequest coordinator now step.shared task outcome (acts ++ step.acts)

/-- Makes a request for a task. -/
def request (coordinator : Coordinator) (now : Nat) (shared : Shared) (task : Task)
    (trigger : Trigger) (acts : List Act) : TaskStep :=
  ofRequest coordinator now task acts (Flight.request coordinator.config.policy shared trigger)

/-- The top of the loop: the next request, unless the loop was cancelled. -/
def turn (coordinator : Coordinator) (now : Nat) (shared : Shared) (task : Task)
    (acts : List Act) : TaskStep :=
  if task.cancelled then stop shared task acts
  else request coordinator now shared task .timer acts

/-- The listeners were tried: the loop begins. -/
def enterLoop (coordinator : Coordinator) (now : Nat) (shared : Shared) (task : Task)
    (acts : List Act) : TaskStep :=
  turn coordinator now shared task
    (acts ++ [note .info "Watch loop started"
      [("interval_ms", toString coordinator.config.interval.millisWord),
       ("policy", coordinator.config.policy.name)]])

/-- Starts the watcher, if there is one. -/
def startWatcher (coordinator : Coordinator) (now : Nat) (shared : Shared) (task : Task)
    (acts : List Act) : TaskStep :=
  if coordinator.hasWatcher then
    let config := coordinator.config
    ⟨shared, { task with stage := .watching },
      acts ++ [.call (.watch config.localDir config.ignoredPaths)]⟩
  else enterLoop coordinator now shared task (acts ++ [note .debug "No file watcher configured" []])

/-- The first stretch of a task. A loop subscribes first, if there is a channel. -/
def start (coordinator : Coordinator) (now : Nat) (shared : Shared) (errand : Errand)
    (cancelled : Bool) : TaskStep :=
  let task : Task := ⟨errand, cancelled, .ready⟩
  match errand with
  | .request trigger => request coordinator now shared task trigger []
  | .change => request coordinator now shared task .fileChange []
  | .message channel payload =>
    request coordinator now shared task (.notification channel payload)
      [note .debug "Change notification received" [("channel", channel), ("payload", payload)],
       .publish (.watch (.notificationReceived channel))]
  | .loop _ =>
    if coordinator.hasChannel then
      ⟨shared, { task with stage := .subscribing },
        [.call (.subscribe coordinator.config.channelKey)]⟩
    else startWatcher coordinator now shared task []

/-- What a loop says about its subscription. -/
def subscribed (channel : String) : Except AdapterError Unit → List Act
  | .ok () =>
    [note .info "Subscribed to change notifications" [("channel", channel)],
     .publish (.watch (.subscribed channel))]
  | .error cause =>
    [note .warn "Cannot subscribe to change notifications"
      [("channel", channel), ("error", cause.message)]]

/-- What a loop says about its watcher. -/
def watcherStarted (root : Path) : Except AdapterError Unit → List Act
  | .ok () =>
    [note .info "File watcher started" [("root", root.display)],
     .publish (.watch (.watcherStarted root.display))]
  | .error cause =>
    [note .warn "Cannot initiate file watcher. Relying on regular tree walks."
      [("error", cause.message)],
     .publish (.watch (.watcherUnavailable cause.message))]

/-- Goes on with the answer to a call. An answer that no call waits for changes nothing. -/
def resume (coordinator : Coordinator) (now : Nat) (shared : Shared) (task : Task)
    (answer : Answer) : TaskStep :=
  match task.stage with
  | .subscribing =>
    match answer with
    | .replied result =>
      startWatcher coordinator now shared task (subscribed coordinator.config.channelKey result)
    | _ => ⟨shared, task, []⟩
  | .watching =>
    match answer with
    | .replied result =>
      enterLoop coordinator now shared task (watcherStarted coordinator.config.localDir result)
    | _ => ⟨shared, task, []⟩
  | .flying flight => ofRequest coordinator now task [] (flight.resume coordinator shared answer)
  | .ready | .sleeping _ | .over _ => ⟨shared, task, []⟩

/-- The task goes away where it waits; a pass that it owns is given up. -/
def abandon (shared : Shared) (task : Task) (ending : Ending) : TaskStep :=
  match task.stage with
  | .over _ => ⟨shared, task, []⟩
  | .flying flight =>
    let (shared, acts) := flight.abandon shared
    finish shared task ending acts
  | _ => finish shared task ending []

/-- Cancels a loop. One that sleeps ends at once, any other when it looks next. -/
def cancel (shared : Shared) (task : Task) : TaskStep :=
  match task.errand, task.stage with
  | .loop false, .sleeping _ => stop shared { task with cancelled := true } []
  | .loop false, .over _ => ⟨shared, task, []⟩
  | .loop false, _ => ⟨shared, { task with cancelled := true }, []⟩
  | _, _ => ⟨shared, task, []⟩

/-- Wakes a sleeping loop whose time has come. -/
def wake (coordinator : Coordinator) (now : Nat) (shared : Shared) (task : Task) : TaskStep :=
  match task.stage with
  | .sleeping wakeAt =>
    if wakeAt ≤ now then turn coordinator now shared task [] else ⟨shared, task, []⟩
  | _ => ⟨shared, task, []⟩

/-- The time at which the task wakes, if it sleeps. -/
def wakeAt? (task : Task) : Option Nat :=
  match task.stage with
  | .sleeping wakeAt => some wakeAt
  | _ => none

end Task

end ReplicaSync
