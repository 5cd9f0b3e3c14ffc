import ReplicaSync.Proofs.Coordinator.Stretch

/-!
# What stretches tell of failed passes

A pass that fails publishes its error. If the request of the pass ends with it, the task that made
the request writes a warning with the same error; if another pass is owed, that pass begins and no
warning is written. One lemma for each function of a flight or a task; main statements:
`flight_resume_reports`, `start_silent` and `resume_tells`.
-/

namespace ReplicaSync

/-! ### Alarms -/

/-- The record warns of a failed request. -/
def LogRecord.isAlarm (record : LogRecord) : Bool :=
  record.level = .warn && "Sync FAILED".toList.isPrefixOf record.message.toList

/-- The number and the error of the failed pass that the act publishes. -/
def Act.failed? : Act → Option (Nat × String)
  | .publish (.sync (.failed passId message)) => some (passId, message)
  | _ => none

/-- The act publishes a failed pass or warns of a failed request. -/
def Act.isAlarm : Act → Bool
  | .publish (.sync (.failed ..)) => true
  | .log record => record.isAlarm
  | _ => false

/-- The failed passes and the warnings among acts. -/
def alarms (acts : List Act) : List Act := acts.filter Act.isAlarm

@[simp] theorem alarms_nil : alarms [] = [] := rfl

@[simp] theorem alarms_append (a b : List Act) : alarms (a ++ b) = alarms a ++ alarms b :=
  List.filter_append a b

@[simp] theorem alarms_cons (act : Act) (acts : List Act) :
    alarms (act :: acts) = if act.isAlarm then act :: alarms acts else alarms acts :=
  List.filter_cons

theorem not_isAlarm_of_mem {acts : List Act} (h : alarms acts = []) (act : Act)
    (hmem : act ∈ acts) : act.isAlarm = false := by
  simpa using List.filter_eq_nil_iff.mp h act hmem

/-- A record below the level of warnings is no alarm. -/
theorem LogRecord.isAlarm_of_level {record : LogRecord} (h : record.level ≠ .warn) :
    record.isAlarm = false := by
  simp [LogRecord.isAlarm, h]

@[simp] theorem Flight.isAlarm_debug (message : String) (fields : List (String × String)) :
    (Flight.note .debug message fields).isAlarm = false := rfl

@[simp] theorem Flight.isAlarm_info (message : String) (fields : List (String × String)) :
    (Flight.note .info message fields).isAlarm = false := rfl

@[simp] theorem Task.isAlarm_debug (message : String) (fields : List (String × String)) :
    (Task.note .debug message fields).isAlarm = false := rfl

@[simp] theorem Task.isAlarm_info (message : String) (fields : List (String × String)) :
    (Task.note .info message fields).isAlarm = false := rfl

@[simp] theorem Act.isAlarm_log (record : LogRecord) :
    (Act.log record).isAlarm = record.isAlarm := rfl

@[simp] theorem Act.isAlarm_finish (ending : Ending) : (Act.finish ending).isAlarm = false := rfl

@[simp] theorem Act.isAlarm_sleep (wakeAt : Nat) : (Act.sleep wakeAt).isAlarm = false := rfl

@[simp] theorem Act.isAlarm_call (call : Call) : (Act.call call).isAlarm = false := rfl

/-- The warning of a task about its request. A caller writes none, since it is told by the
answer. -/
def Errand.warning? (config : WatchConfig) (error : String) : Errand → Option LogRecord
  | .request _ => none
  | .change | .message _ _ =>
    some (.make .warn Coordinator.target none "Sync FAILED (event-triggered)." [("error", error)])
  | .loop _ =>
    some (.make .warn Coordinator.target none
      s!"Sync FAILED, waiting {config.interval.secs} seconds ..." [("error", error)])

/-- The warning as an act, if there is one. -/
def Errand.warns (config : WatchConfig) (error : String) (errand : Errand) : List Act :=
  (errand.warning? config error).toList.map .log

/-! ### Stretches of a request -/

/-- The record of a failed pass, and its event. -/
def Flight.failedActs (passId : Nat) (message : String) : List Act :=
  [note .debug "Sync pass failed"
    [("pass_id", toString passId), duration, ("error", message)], .event (.failed passId message)]

/-- The record of a follow-up pass and the beginning of it. -/
def Flight.followUpActs (passes passId : Nat) (trigger : Trigger) : List Act :=
  [note .debug "Running follow-up pass for deferred triggers" [("passes", toString passes)],
    .event (.started passId trigger.label),
    note .debug "Starting sync pass" [("pass_id", toString passId)], .call .pull]

/-- What the stretch of a request tells of failed passes. A pass that fails publishes its error;
then the next pass begins if it is owed, and the request is answered with the error if not. -/
inductive RequestStep.Reports (owner : Owner) (step : RequestStep) : Prop where
  | silent (hacts : alarms step.acts = [])
      (hstate : ∀ outcome, step.state = .settled outcome → Task.failure? outcome = none)
  | goesOn (message : String) (flight : Flight) (hpending : owner.pending = true)
      (hacts : step.acts = Flight.failedActs owner.passId message ++
        Flight.followUpActs owner.passes (owner.passId + 1) owner.trigger)
      (hstate : step.state = .flying flight)
  | ends (message : String) (hpending : owner.pending = false)
      (hacts : step.acts = Flight.failedActs owner.passId message ++
        [.settle (.executed ⟨owner.passes, .failed, some message⟩)])
      (hstate : step.state = .settled (.executed ⟨owner.passes, .failed, some message⟩))

section Requests

variable (coordinator : Coordinator)

theorem alarms_complaint (message : String) (h : "Sync FAILED".toList.isPrefixOf message.toList =
    false) (error : Option SyncError) : alarms (Flight.complaint message error) = [] := by
  cases error with
  | none => rfl
  | some error =>
    simp only [Flight.complaint, alarms_cons, Act.isAlarm_log, LogRecord.isAlarm, LogRecord.make,
      h, Bool.and_false]
    rfl

theorem request_silent (policy : TriggerPolicy) (shared : Shared) (trigger : Trigger) :
    let step := Flight.request policy shared trigger
    alarms step.acts = [] ∧
      ∀ outcome, step.state = .settled outcome → Task.failure? outcome = none := by
  unfold Flight.request
  split
  · exact ⟨rfl, by simp [Flight.takeOff]⟩
  · exact ⟨rfl, by rintro _ ⟨⟩; rfl⟩
  · exact ⟨rfl, by rintro _ ⟨⟩; rfl⟩

/-- A pass that did not fail tells of no failure. -/
theorem endPass_silent (owner : Owner) {last : PassStatus} (hlast : last ≠ .failed)
    {acts : List Act} (hacts : alarms acts = []) :
    (Flight.endPass (Airspace.taken owner).shared owner.flight last none acts).Reports owner := by
  have hcomplaint : ∀ error : Option SyncError,
      alarms (Flight.complaint "Flight guard released an idle gate" error) = [] :=
    alarms_complaint _ (by simp [List.isPrefixOf])
  refine .silent ?_ ?_
  · unfold Flight.endPass
    simp only
    split
    · simp only [alarms_append, alarms_cons, hacts, hcomplaint, Flight.isAlarm_debug,
        Flight.takeOff]
      rfl
    · simp only [alarms_append, alarms_cons, hacts, hcomplaint]
      rfl
  · intro outcome hstate
    unfold Flight.endPass at hstate
    simp only at hstate
    split at hstate
    · cases hstate
    · cases hstate
      simp [Task.failure?, PassReport.failed, hlast]

theorem fail_reports (owner : Owner) (error : SyncError) :
    (Flight.fail (Airspace.taken owner).shared owner.flight error).Reports owner := by
  unfold Flight.fail Flight.endPass
  cases hpending : owner.pending with
  | true =>
    have hfinish : owner.flight.guard.finish (Airspace.taken owner).shared.gate =
        ⟨⟨.running, false⟩, ⟨false⟩, true, none⟩ := by
      simp only [Owner.flight, Airspace.shared, Airspace.gate, hpending, finish_owed]
    simp only [hfinish, if_true]
    exact .goesOn error.message _ hpending rfl rfl
  | false =>
    have hfinish : owner.flight.guard.finish (Airspace.taken owner).shared.gate =
        ⟨.new, ⟨true⟩, false, none⟩ := by
      simp only [Owner.flight, Airspace.shared, Airspace.gate, hpending, finish_free]
    simp only [hfinish, Bool.false_eq_true, if_false]
    exact .ends error.message hpending rfl rfl

theorem afterPush_reports (owner : Owner) (result : PushResult) :
    (Flight.afterPush coordinator (Airspace.taken owner).shared owner.flight result).Reports
      owner := by
  unfold Flight.afterPush PassOutcome.ofPush
  cases huploaded : result.uploaded with
  | false => exact endPass_silent owner (by simp [PassOutcome.status]) rfl
  | true =>
    cases hchannel : coordinator.hasChannel with
    | false => exact endPass_silent owner (by simp) rfl
    | true => exact .silent rfl (by simp)

theorem afterAnnounce_reports (owner : Owner) (result : Except AdapterError Unit) :
    (Flight.afterAnnounce coordinator (Airspace.taken owner).shared owner.flight result).Reports
      owner := by
  cases result with
  | ok => exact endPass_silent owner (by simp) rfl
  | error cause =>
    refine endPass_silent owner (by simp) ?_
    simp [LogRecord.isAlarm, Flight.announcementRecord, LogRecord.make, List.isPrefixOf]

theorem flight_resume_reports (owner : Owner) (answer : Answer) :
    (owner.flight.resume coordinator (Airspace.taken owner).shared answer).Reports owner := by
  have hstray : (RequestStep.mk (Airspace.taken owner).shared (.flying owner.flight) []).Reports
      owner := .silent rfl (by simp)
  unfold Flight.resume
  split
  · split
    · exact .silent rfl (by simp [Flight.afterPull])
    · exact fail_reports owner _
    · exact hstray
  · split
    · exact afterPush_reports coordinator owner _
    · exact fail_reports owner _
    · exact hstray
  · split
    · exact afterAnnounce_reports coordinator owner _
    · exact hstray

end Requests

/-! ### Stretches of a task -/

/-- What the stretch of a task with this errand tells of failed passes, if the gate is owned by
this owner. -/
inductive Tells (coordinator : Coordinator) (errand : Errand) (owner : Owner) :
    List Act → Prop where
  | silent {acts : List Act} (h : alarms acts = []) : Tells coordinator errand owner acts
  | goesOn (message : String) (hpending : owner.pending = true) :
    Tells coordinator errand owner (Flight.failedActs owner.passId message ++
      Flight.followUpActs owner.passes (owner.passId + 1) owner.trigger)
  | warns (message : String) (rest : List Act) (hpending : owner.pending = false)
      (hrest : alarms rest = []) :
    Tells coordinator errand owner (Flight.failedActs owner.passId message ++
      .settle (.executed ⟨owner.passes, .failed, some message⟩) ::
        errand.warns coordinator.config message ++ rest)

section Tasks

variable {coordinator : Coordinator} {now : Nat} {task : Task} {acts : List Act}

/-- After an answer a task warns if its request failed, and of nothing else. -/
theorem afterRequest_warns (coordinator : Coordinator) (now : Nat) (shared : Shared) (task : Task)
    (outcome : RequestOutcome) (acts : List Act) :
    ∃ rest, alarms rest = [] ∧
      (Task.afterRequest coordinator now shared task outcome acts).acts =
        acts ++ (match Task.failure? outcome with
          | some error => task.errand.warns coordinator.config error
          | none => []) ++ rest := by
  unfold Task.afterRequest Errand.warns
  cases task.errand with
  | request trigger =>
    refine ⟨[.finish (.answered outcome)], rfl, ?_⟩
    cases Task.failure? outcome <;> simp [Task.finish, Errand.warning?]
  | change | message =>
    refine ⟨[.finish .returned], rfl, ?_⟩
    cases Task.failure? outcome <;> simp [Task.finish, Errand.warning?, Task.note]
  | «loop» forever =>
    -- the record of a request that did not fail is part of the rest
    cases hcancelled : task.cancelled with
    | true =>
      cases hfailure : Task.failure? outcome with
      | some error =>
        refine ⟨[Task.note .info "Watch loop stopped" [], .finish .stopped], rfl, ?_⟩
        simp [Task.loopRecord, hfailure, Task.stop, Task.finish, Errand.warning?, Task.note]
      | none =>
        refine ⟨[Task.loopRecord coordinator.config outcome,
          Task.note .info "Watch loop stopped" [], .finish .stopped], ?_, ?_⟩
        · simp [Task.loopRecord, hfailure]
        · simp [Task.stop, Task.finish]
    | false =>
      cases hfailure : Task.failure? outcome with
      | some error =>
        refine ⟨[.sleep (now + coordinator.config.interval.sleepTicks)], rfl, ?_⟩
        simp [Task.loopRecord, hfailure, Errand.warning?, Task.note]
      | none =>
        refine ⟨[Task.loopRecord coordinator.config outcome,
          .sleep (now + coordinator.config.interval.sleepTicks)], ?_, ?_⟩
        · simp [Task.loopRecord, hfailure]
        · simp

theorem afterRequest_silent (shared : Shared) {outcome : RequestOutcome}
    (h : Task.failure? outcome = none) (hacts : alarms acts = []) :
    alarms (Task.afterRequest coordinator now shared task outcome acts).acts = [] := by
  obtain ⟨rest, hrest, hsplit⟩ := afterRequest_warns coordinator now shared task outcome acts
  rw [hsplit, h]
  simp [hacts, hrest]

theorem ofRequest_silent {acts : List Act} (step : RequestStep) (hacts : alarms acts = [])
    (hstep : alarms step.acts = [])
    (hstate : ∀ outcome, step.state = .settled outcome → Task.failure? outcome = none) :
    alarms (Task.ofRequest coordinator now task acts step).acts = [] := by
  unfold Task.ofRequest
  split
  · simp [hacts, hstep]
  · rename_i outcome hsettled
    exact afterRequest_silent _ (hstate outcome hsettled) (by simp [hacts, hstep])

theorem task_request_silent (shared : Shared) (trigger : Trigger) (hacts : alarms acts = []) :
    alarms (Task.request coordinator now shared task trigger acts).acts = [] :=
  have ⟨hsilent, hstate⟩ := request_silent coordinator.config.policy shared trigger
  ofRequest_silent _ hacts hsilent hstate

theorem stop_silent (shared : Shared) (hacts : alarms acts = []) :
    alarms (Task.stop shared task acts).acts = [] := by
  simp [Task.stop, Task.finish, hacts]

theorem turn_silent (shared : Shared) (hacts : alarms acts = []) :
    alarms (Task.turn coordinator now shared task acts).acts = [] := by
  unfold Task.turn
  split
  · exact stop_silent shared hacts
  · exact task_request_silent shared .timer hacts

theorem enterLoop_silent (shared : Shared) (hacts : alarms acts = []) :
    alarms (Task.enterLoop coordinator now shared task acts).acts = [] :=
  turn_silent shared (by simp [hacts])

theorem startWatcher_silent (shared : Shared) (hacts : alarms acts = []) :
    alarms (Task.startWatcher coordinator now shared task acts).acts = [] := by
  unfold Task.startWatcher
  split
  · simp [hacts]
  · exact enterLoop_silent shared (by simp [hacts])

theorem start_silent (shared : Shared) (errand : Errand) (cancelled : Bool) :
    alarms (Task.start coordinator now shared errand cancelled).acts = [] := by
  unfold Task.start
  cases errand with
  | request trigger => exact task_request_silent shared trigger rfl
  | change => exact task_request_silent shared .fileChange rfl
  | message channel payload => exact task_request_silent shared _ rfl
  | «loop» forever =>
    simp only
    split
    · rfl
    · exact startWatcher_silent shared rfl

theorem alarms_subscribed (channel : String) (result : Except AdapterError Unit) :
    alarms (Task.subscribed channel result) = [] := by
  cases result with
  | ok => rfl
  | error cause =>
    simp [Task.subscribed, Task.note, Act.isAlarm, LogRecord.isAlarm, LogRecord.make,
      List.isPrefixOf]

theorem alarms_watcherStarted (root : Path) (result : Except AdapterError Unit) :
    alarms (Task.watcherStarted root result) = [] := by
  cases result with
  | ok => rfl
  | error cause =>
    simp [Task.watcherStarted, Task.note, Act.isAlarm, LogRecord.isAlarm, LogRecord.make,
      List.isPrefixOf]

/-- An answer that the owner of the gate does not hear tells of no failure. -/
theorem resume_silent (shared : Shared) (answer : Answer) (h : task.flight? = none) :
    alarms (task.resume coordinator now shared answer).acts = [] := by
  unfold Task.resume
  cases hstage : task.stage with
  | flying flight => simp [Task.flight?, hstage] at h
  | subscribing =>
    cases answer with
    | replied result => exact startWatcher_silent shared (alarms_subscribed _ result)
    | pulled | pushed => rfl
  | watching =>
    cases answer with
    | replied result => exact enterLoop_silent shared (alarms_watcherStarted _ result)
    | pulled | pushed => rfl
  | ready | sleeping | «over» => rfl

/-- The task whose request owns the gate is answered. -/
theorem resume_tells (owner : Owner) (answer : Answer) (h : task.flight? = some owner.flight) :
    Tells coordinator task.errand owner
      (task.resume coordinator now (Airspace.taken owner).shared answer).acts := by
  have hstage : task.stage = .flying owner.flight := by
    unfold Task.flight? at h
    split at h
    · cases h
      assumption
    · cases h
  unfold Task.resume
  rw [hstage]
  simp only [Task.ofRequest]
  cases flight_resume_reports coordinator owner answer with
  | silent hacts hstate =>
    have hnil : alarms [] = [] := rfl
    exact .silent (ofRequest_silent _ hnil hacts hstate)
  | goesOn message flight hpending hacts hstate =>
    rw [hstate, hacts]
    exact .goesOn message hpending
  | ends message hpending hacts hstate =>
    rw [hstate, hacts]
    obtain ⟨rest, hrest, hsplit⟩ := afterRequest_warns coordinator now
      (owner.flight.resume coordinator (Airspace.taken owner).shared answer).shared task
      (.executed ⟨owner.passes, .failed, some message⟩)
      ([] ++ (Flight.failedActs owner.passId message ++
        [.settle (.executed ⟨owner.passes, .failed, some message⟩)]))
    simp only [hsplit]
    have htells : Tells coordinator task.errand owner _ := .warns message rest hpending hrest
    simpa [Task.failure?, PassReport.failed] using htells

theorem abandon_silent (shared : Shared) (task : Task) (ending : Ending) :
    alarms (task.abandon shared ending).acts = [] := by
  unfold Task.abandon
  split
  · rfl
  · simp [Task.finish, Flight.abandon,
      alarms_complaint "Flight guard dropped on an idle gate" (by simp [List.isPrefixOf])]
  · rfl

theorem cancel_silent (shared : Shared) (task : Task) :
    alarms (task.cancel shared).acts = [] := by
  unfold Task.cancel
  split
  · exact stop_silent shared rfl
  · rfl
  · rfl
  · rfl

theorem wake_silent (shared : Shared) :
    alarms (task.wake coordinator now shared).acts = [] := by
  unfold Task.wake
  split
  · split
    · exact turn_silent shared rfl
    · rfl
  · rfl

end Tasks

end ReplicaSync
