import ReplicaSync.Coordinator.Act
import ReplicaSync.Coordinator.Basic
import ReplicaSync.Pass

/-!
# Requests in flight

A request that the gate lets in runs a pass, and then one more for as long as the gate says that
one is owed. A request that the gate refuses is answered at once. A failed pass ends like any
other; a change is announced before the gate is asked.
-/

namespace ReplicaSync

/-- The call of its pass for which a request waits. -/
inductive FlightStage where
  | pulling
  | pushing
  | announcing
  deriving DecidableEq, Repr

/-- A request that owns the gate. -/
structure Flight where
  trigger : Trigger
  guard : Guard
  /-- The passes begun by this request. -/
  passes : Nat
  /-- The number of the running pass among all passes. -/
  passId : Nat
  stage : FlightStage
  deriving DecidableEq, Repr

/-- Where a request stands. -/
inductive RequestState where
  | flying (flight : Flight)
  | settled (outcome : RequestOutcome)
  deriving DecidableEq, Repr

/-- What a stretch of a request leaves behind. -/
structure RequestStep where
  shared : Shared
  state : RequestState
  acts : List Act

namespace Flight

/-- The payload that tells other replicas about a change. -/
def changeMarker : String := "1"

/-- The time that a pass took is not measured. -/
def duration : String × String := ("duration_ms", "0")

/-- A record made while a request is served. -/
def note (level : LogLevel) (message : String) (fields : List (String × String)) : Act :=
  .log (.make level Coordinator.target (some "request_sync") message fields)

/-- The record of a gate that was given back twice. -/
def complaint (message : String) : Option SyncError → List Act
  | none => []
  | some error =>
    [.log (.make .warn "core_sync::state" (some "request_sync") message
      [("error", error.message)])]

/-- Begins the next pass of a request. -/
def takeOff (shared : Shared) (trigger : Trigger) (guard : Guard) (passes : Nat) : RequestStep :=
  let passId := shared.passes + 1
  { shared := { shared with passes := passId }
    state := .flying ⟨trigger, guard, passes + 1, passId, .pulling⟩
    acts :=
      [.publish (.sync (.started passId trigger.label)),
       note .debug "Starting sync pass" [("pass_id", toString passId)],
       .call .pull] }

/-- Makes a request. -/
def request (policy : TriggerPolicy) (shared : Shared) (trigger : Trigger) : RequestStep :=
  match shared.gate.enter policy with
  | (gate, .entered guard) =>
    let step := takeOff { shared with gate } trigger guard 0
    { step with acts := .request trigger :: step.acts }
  | (gate, .dropped) =>
    { shared := { shared with gate }
      state := .settled .dropped
      acts :=
        [.request trigger, note .debug "Sync already running, trigger dropped" [],
         .publish (.sync (.dropped trigger.label)), .settle .dropped] }
  | (gate, .deferred) =>
    { shared := { shared with gate }
      state := .settled .deferred
      acts :=
        [.request trigger, note .debug "Sync already running, trigger deferred" [],
         .publish (.sync (.deferred trigger.label)), .settle .deferred] }

/-- The pass is over: one more if the gate says so, the answer otherwise. -/
def endPass (shared : Shared) (flight : Flight) (last : PassStatus) (error : Option String)
    (acts : List Act) : RequestStep :=
  let finish := flight.guard.finish shared.gate
  let acts := acts ++ complaint "Flight guard released an idle gate" finish.complaint
  if finish.again then
    let shared := { shared with gate := finish.gate }
    let step := takeOff shared flight.trigger finish.guard flight.passes
    let followUp := note .debug "Running follow-up pass for deferred triggers"
      [("passes", toString flight.passes)]
    { step with acts := acts ++ followUp :: step.acts }
  else
    let outcome := RequestOutcome.executed ⟨flight.passes, last, error⟩
    { shared := { shared with gate := finish.gate }
      state := .settled outcome
      acts := acts ++ [.settle outcome] }

/-- A phase failed. -/
def fail (shared : Shared) (flight : Flight) (error : SyncError) : RequestStep :=
  let message := error.message
  endPass shared flight .failed (some message)
    [note .debug "Sync pass failed"
      [("pass_id", toString flight.passId), duration, ("error", message)],
     .publish (.sync (.failed flight.passId message))]

/-- The pull went well: the push is next. -/
def afterPull (shared : Shared) (flight : Flight) (result : PullResult) : RequestStep :=
  { shared
    state := .flying { flight with stage := .pushing }
    acts := [.log (Pass.pullFinished result), .call .push] }

/-- The push went well. A change is announced if there is a channel. -/
def afterPush (coordinator : Coordinator) (shared : Shared) (flight : Flight)
    (result : PushResult) : RequestStep :=
  match PassOutcome.ofPush result with
  | .changes changes =>
    let acts : List Act :=
      [.log (Pass.pushFinished result),
       note .info "Sync pass uploaded local changes"
        [("pass_id", toString flight.passId), ("changes", toString changes.count), duration],
       .publish (.sync (.completed flight.passId true 0))]
    if coordinator.hasChannel then
      { shared
        state := .flying { flight with stage := .announcing }
        acts := acts ++ [.call (.announce coordinator.config.channelKey changeMarker)] }
    else endPass shared flight .changes none acts
  | outcome =>
    endPass shared flight outcome.status none
      [.log (Pass.pushFinished result),
       note .debug "Sync pass found nothing to upload"
        [("pass_id", toString flight.passId), duration],
       .publish (.sync (.completed flight.passId false 0))]

/-- The record of an announcement and what became of it. -/
def announcementRecord (span : Option String) (channel : String) :
    Except AdapterError Unit → LogRecord
  | .ok () =>
    .make .debug "core_sync::announcer" span "Announced local changes" [("channel", channel)]
  | .error cause =>
    .make .warn "core_sync::announcer" span "Could not announce local changes"
      [("channel", channel), ("error", (SyncError.announce cause).message)]

/-- The announcement was answered; a refusal is logged and does no more. -/
def afterAnnounce (coordinator : Coordinator) (shared : Shared) (flight : Flight)
    (result : Except AdapterError Unit) : RequestStep :=
  let channel := coordinator.config.channelKey
  let record := Act.log (announcementRecord (some "request_sync") channel result)
  match result with
  | .ok () => endPass shared flight .changes none [record, .publish (.sync (.announced channel))]
  | .error _ => endPass shared flight .changes none [record]

/-- Goes on with the answer to the call. An answer to another call changes nothing. -/
def resume (coordinator : Coordinator) (shared : Shared) (flight : Flight) :
    Answer → RequestStep
  | .pulled result =>
    match flight.stage, result with
    | .pulling, .ok result => afterPull shared flight result
    | .pulling, .error cause => fail shared flight (.pull cause)
    | _, _ => ⟨shared, .flying flight, []⟩
  | .pushed result =>
    match flight.stage, result with
    | .pushing, .ok result => afterPush coordinator shared flight result
    | .pushing, .error cause => fail shared flight (.push cause)
    | _, _ => ⟨shared, .flying flight, []⟩
  | .replied result =>
    match flight.stage with
    | .announcing => afterAnnounce coordinator shared flight result
    | _ => ⟨shared, .flying flight, []⟩

/-- The request goes away before it is answered. -/
def abandon (shared : Shared) (flight : Flight) : Shared × List Act :=
  let (gate, error) := flight.guard.abandon shared.gate
  ({ shared with gate }, complaint "Flight guard dropped on an idle gate" error)

end Flight

end ReplicaSync
