import ReplicaSync.Proofs.Coordinator.Leg

/-!
# Stretches

Every stretch of a request and every stretch of a task follows a leg: it leaves the shared state
and the flight of the task as the leg says, and shows the signals of the leg. One lemma for each
function of a flight or a task; nothing later opens these functions for what they do to passes.
-/

namespace ReplicaSync

/-- The flight of a request that was let in and is not answered. -/
def RequestState.flight? : RequestState → Option Flight
  | .flying flight => some flight
  | .settled _ => none

/-- The flight of a task that owns the gate. -/
def Task.flight? (task : Task) : Option Flight :=
  match task.stage with
  | .flying flight => some flight
  | _ => none

/-- The stretch of a request does what some leg says. -/
def RequestStep.Follows (step : RequestStep) (coordinator : Coordinator) (before : Airspace)
    (heard : Option Answer) (number : Nat) : Prop :=
  ∃ after, Leg coordinator before heard number (signals step.acts) after ∧
    step.shared = after.shared ∧ step.state.flight? = after.flight? number

/-- The stretch of a task does what some leg says. -/
def TaskStep.Follows (step : TaskStep) (coordinator : Coordinator) (before : Airspace)
    (heard : Option Answer) (number : Nat) : Prop :=
  ∃ after, Leg coordinator before heard number (signals step.acts) after ∧
    step.shared = after.shared ∧ step.task.flight? = after.flight? number

variable {coordinator : Coordinator} {airspace : Airspace} {number : Nat}

/-! ### Requests -/

@[simp] theorem Act.isSignal_log (record : LogRecord) : (Act.log record).isSignal = false := rfl

@[simp] theorem Act.isSignal_event (event : SyncEvent) : (Act.event event).isSignal = true := rfl

@[simp] theorem Act.isSignal_request (trigger : Trigger) :
    (Act.request trigger).isSignal = true := rfl

@[simp] theorem Act.isSignal_settle (outcome : RequestOutcome) :
    (Act.settle outcome).isSignal = true := rfl

@[simp] theorem Flight.isSignal_note (level : LogLevel) (message : String)
    (fields : List (String × String)) : (Flight.note level message fields).isSignal = false := rfl

@[simp] theorem Task.isSignal_note (level : LogLevel) (message : String)
    (fields : List (String × String)) : (Task.note level message fields).isSignal = false := rfl

theorem signals_takeOff (shared : Shared) (trigger : Trigger) (guard : Guard) (passes : Nat) :
    signals (Flight.takeOff shared trigger guard passes).acts =
      [.event (.started (shared.passes + 1) trigger.label), .call .pull] := rfl

theorem request_follows (trigger : Trigger) (h : airspace.flight? number = none) :
    (Flight.request coordinator.config.policy airspace.shared trigger).Follows coordinator
      airspace none number := by
  cases airspace with
  | clear passes =>
    refine ⟨_, .enter passes number trigger, rfl, ?_⟩
    simp only [Airspace.flight?, if_true]
    rfl
  | taken owner =>
    have hother : owner.number ≠ number := by
      intro heq
      simp [Airspace.flight?, heq] at h
    have hleg : Leg coordinator (.taken owner) none number _ _ :=
      .refuse owner number trigger hother.symm
    cases hpolicy : coordinator.config.policy with
    | drop =>
      rw [hpolicy] at hleg
      refine ⟨_, hleg, ?_, ?_⟩
      · simp [Flight.request, Gate.enter, SyncState.transition, Airspace.shared, Airspace.gate,
          Airspace.passes]
      · simp only [Airspace.flight?, if_neg hother]
        rfl
    | coalesce =>
      rw [hpolicy] at hleg
      refine ⟨_, hleg, ?_, ?_⟩
      · simp [Flight.request, Gate.enter, SyncState.transition, Airspace.shared, Airspace.gate,
          Airspace.passes]
      · simp only [Airspace.flight?, if_neg hother]
        rfl

theorem finish_owed : (⟨false⟩ : Guard).finish ⟨.running, true⟩ =
    ⟨⟨.running, false⟩, ⟨false⟩, true, none⟩ := rfl

theorem finish_free : (⟨false⟩ : Guard).finish ⟨.running, false⟩ =
    ⟨.new, ⟨true⟩, false, none⟩ := rfl

/-- The gate is asked when a pass ends: one that is owed begins, or the request is answered. -/
theorem endPass_follows (owner : Owner) (answer : Answer) (events : List SyncEvent)
    (last : PassStatus) (error : Option String) (acts : List Act)
    (hacts : signals acts = events.map Act.event)
    (h : Verdict coordinator owner.passId owner.stage answer events last error) :
    (Flight.endPass (Airspace.taken owner).shared owner.flight last error acts).Follows
      coordinator (.taken owner) (some answer) owner.number := by
  cases hpending : owner.pending with
  | true =>
    have hfinish : owner.flight.guard.finish (Airspace.taken owner).shared.gate =
        ⟨⟨.running, false⟩, ⟨false⟩, true, none⟩ := by
      simp only [Owner.flight, Airspace.shared, Airspace.gate, hpending, finish_owed]
    have hsignals : signals (Flight.endPass (Airspace.taken owner).shared owner.flight last
        error acts).acts = events.map Act.event ++
          [.event (.started (owner.passId + 1) owner.trigger.label), .call .pull] := by
      simp only [Flight.endPass, hfinish, if_true, signals_append, signals_cons, hacts,
        Flight.complaint, signals_nil, Flight.isSignal_note, signals_takeOff]
      simp [Owner.flight, Airspace.shared, Airspace.passes]
    refine ⟨.taken ⟨owner.number, owner.trigger, owner.passes + 1, owner.passId + 1,
      .pulling, false⟩, ?_, ?_, ?_⟩
    · rw [hsignals]
      exact .followUp owner answer events last error hpending h
    · simp only [Flight.endPass, hfinish, if_true]
      rfl
    · simp only [Flight.endPass, hfinish, if_true, Airspace.flight?]
      rfl
  | false =>
    have hfinish : owner.flight.guard.finish (Airspace.taken owner).shared.gate =
        ⟨.new, ⟨true⟩, false, none⟩ := by
      simp only [Owner.flight, Airspace.shared, Airspace.gate, hpending, finish_free]
    have hsignals : signals (Flight.endPass (Airspace.taken owner).shared owner.flight last
        error acts).acts = events.map Act.event ++
          [.settle (.executed ⟨owner.passes, last, error⟩)] := by
      simp only [Flight.endPass, hfinish, Bool.false_eq_true, if_false, signals_append,
        signals_cons, hacts, Flight.complaint, signals_nil, Act.isSignal_settle, if_true,
        List.append_nil]
      rfl
    refine ⟨.clear owner.passId, ?_, ?_, ?_⟩
    · rw [hsignals]
      exact .land owner answer events last error hpending h
    · simp only [Flight.endPass, hfinish, Bool.false_eq_true, if_false]
      rfl
    · simp only [Flight.endPass, hfinish, Bool.false_eq_true, if_false]
      rfl

theorem fail_follows (owner : Owner) (answer : Answer) (error : SyncError)
    (h : Verdict coordinator owner.passId owner.stage answer
      [.failed owner.passId error.message] .failed (some error.message)) :
    (Flight.fail (Airspace.taken owner).shared owner.flight error).Follows coordinator
      (.taken owner) (some answer) owner.number :=
  endPass_follows owner answer [.failed owner.passId error.message] _ _ _ rfl h

theorem resume_stray (owner : Owner) (answer : Answer)
    (h : owner.stage.awaits answer = false) :
    owner.flight.resume coordinator (Airspace.taken owner).shared answer =
      ⟨(Airspace.taken owner).shared, .flying owner.flight, []⟩ := by
  obtain ⟨_, _, _, _, stage, _⟩ := owner
  cases stage <;> cases answer <;> first | rfl | cases h

theorem afterPull_follows (owner : Owner) (result : PullResult) (h : owner.stage = .pulling) :
    (Flight.afterPull (Airspace.taken owner).shared owner.flight result).Follows coordinator
      (.taken owner) (some (.pulled (.ok result))) owner.number := by
  refine ⟨_, .pulled owner result h, rfl, ?_⟩
  simp only [Airspace.flight?, if_true]
  rfl

theorem afterPush_follows (owner : Owner) (result : PushResult) (h : owner.stage = .pushing) :
    (Flight.afterPush coordinator (Airspace.taken owner).shared owner.flight result).Follows
      coordinator (.taken owner) (some (.pushed (.ok result))) owner.number := by
  unfold Flight.afterPush PassOutcome.ofPush
  cases huploaded : result.uploaded with
  | false =>
    refine endPass_follows owner _ [.completed owner.passId false 0] _ _ _ rfl ?_
    rw [h]
    exact .unchanged result huploaded
  | true =>
    cases hchannel : coordinator.hasChannel with
    | false =>
      refine endPass_follows owner _ [.completed owner.passId true 0] _ _ _ rfl ?_
      rw [h]
      exact .changed result huploaded hchannel
    | true =>
      refine ⟨_, .uploaded owner result h huploaded hchannel, rfl, ?_⟩
      simp only [Airspace.flight?, if_true]
      rfl

theorem afterAnnounce_follows (owner : Owner) (result : Except AdapterError Unit)
    (h : owner.stage = .announcing) :
    (Flight.afterAnnounce coordinator (Airspace.taken owner).shared owner.flight result).Follows
      coordinator (.taken owner) (some (.replied result)) owner.number := by
  cases result with
  | ok =>
    refine endPass_follows owner _ [.announced coordinator.config.channelKey] _ _ _ rfl ?_
    rw [h]
    exact .announced
  | error cause =>
    refine endPass_follows owner _ [] _ _ _ rfl ?_
    rw [h]
    exact .unannounced cause

theorem flight_resume_follows (owner : Owner) (answer : Answer) :
    (owner.flight.resume coordinator (Airspace.taken owner).shared answer).Follows coordinator
      (.taken owner) (some answer) owner.number := by
  cases hawaits : owner.stage.awaits answer with
  | false =>
    rw [resume_stray owner answer hawaits]
    refine ⟨.taken owner, .quiet _ _ _ ?_, rfl, ?_⟩
    · intro other hother heard hheard
      cases hother
      cases hheard
      exact hawaits
    · simp only [Airspace.flight?, if_true]
      rfl
  | true =>
    have hstage : owner.flight.stage = owner.stage := rfl
    cases answer with
    | pulled result =>
      have hpulling : owner.stage = .pulling := by
        cases hcase : owner.stage <;> simp [hcase, FlightStage.awaits] at hawaits ⊢
      simp only [Flight.resume, hstage, hpulling]
      cases result with
      | ok result => exact afterPull_follows owner result hpulling
      | error cause =>
        refine fail_follows owner _ (.pull cause) ?_
        rw [hpulling]
        exact .pullFailed cause
    | pushed result =>
      have hpushing : owner.stage = .pushing := by
        cases hcase : owner.stage <;> simp [hcase, FlightStage.awaits] at hawaits ⊢
      simp only [Flight.resume, hstage, hpushing]
      cases result with
      | ok result => exact afterPush_follows owner result hpushing
      | error cause =>
        refine fail_follows owner _ (.push cause) ?_
        rw [hpushing]
        exact .pushFailed cause
    | replied result =>
      have hannouncing : owner.stage = .announcing := by
        cases hcase : owner.stage <;> simp [hcase, FlightStage.awaits] at hawaits ⊢
      simp only [Flight.resume, hstage, hannouncing]
      exact afterAnnounce_follows owner result hannouncing

/-! ### Tasks -/

/-- The answer that the owner of the gate hears if a task is answered. -/
def Airspace.heard (airspace : Airspace) (number : Nat) (answer : Answer) : Option Answer :=
  if (airspace.flight? number).isSome then some answer else none

theorem flight?_eq_some {flight : Flight} (h : airspace.flight? number = some flight) :
    ∃ owner, airspace = .taken owner ∧ owner.number = number ∧ owner.flight = flight := by
  cases airspace with
  | clear passes => cases h
  | taken owner =>
    simp only [Airspace.flight?] at h
    split at h
    · exact ⟨owner, rfl, ‹_›, Option.some.inj h⟩
    · cases h

theorem TaskStep.follows_quiet (step : TaskStep) (hsignals : signals step.acts = [])
    (hshared : step.shared = airspace.shared)
    (hflight : step.task.flight? = airspace.flight? number) :
    step.Follows coordinator airspace none number := by
  refine ⟨airspace, ?_, hshared, hflight⟩
  rw [hsignals]
  exact .quiet _ _ _ fun _ _ _ hheard => nomatch hheard

variable {now : Nat} {task : Task} {acts : List Act}

@[simp] theorem Act.isSignal_finish (ending : Ending) :
    (Act.finish ending).isSignal = ending.isLoss := rfl

@[simp] theorem Act.isSignal_sleep (wakeAt : Nat) : (Act.sleep wakeAt).isSignal = false := rfl

@[simp] theorem Task.isSignal_loopRecord (config : WatchConfig) (outcome : RequestOutcome) :
    (Task.loopRecord config outcome).isSignal = false := by
  unfold Task.loopRecord
  split <;> rfl

theorem signals_stop (shared : Shared) :
    signals (Task.stop shared task acts).acts = signals acts := by
  simp [Task.stop, Task.finish, Ending.isLoss]

/-- What a task does with the answer to its request counts for nothing. -/
theorem signals_afterRequest (shared : Shared) (outcome : RequestOutcome) :
    signals (Task.afterRequest coordinator now shared task outcome acts).acts = signals acts := by
  unfold Task.afterRequest
  cases task.errand with
  | request trigger => simp [Task.finish, Ending.isLoss]
  | change => cases Task.failure? outcome <;> simp [Task.finish, Ending.isLoss]
  | message channel payload => cases Task.failure? outcome <;> simp [Task.finish, Ending.isLoss]
  | «loop» forever =>
    cases hcancelled : task.cancelled with
    | true => simp [signals_stop]
    | false => simp

theorem afterRequest_shared (shared : Shared) (outcome : RequestOutcome) :
    (Task.afterRequest coordinator now shared task outcome acts).shared = shared := by
  unfold Task.afterRequest
  cases task.errand with
  | request trigger => rfl
  | change => cases Task.failure? outcome <;> rfl
  | message channel payload => cases Task.failure? outcome <;> rfl
  | «loop» forever => cases hcancelled : task.cancelled <;> rfl

theorem afterRequest_flight? (shared : Shared) (outcome : RequestOutcome) :
    (Task.afterRequest coordinator now shared task outcome acts).task.flight? = none := by
  unfold Task.afterRequest
  cases task.errand with
  | request trigger => rfl
  | change => cases Task.failure? outcome <;> rfl
  | message channel payload => cases Task.failure? outcome <;> rfl
  | «loop» forever => cases hcancelled : task.cancelled <;> rfl

theorem ofRequest_follows (step : RequestStep) (heard : Option Answer)
    (hacts : signals acts = []) (h : step.Follows coordinator airspace heard number) :
    (Task.ofRequest coordinator now task acts step).Follows coordinator airspace heard number := by
  obtain ⟨after, hleg, hshared, hflight⟩ := h
  refine ⟨after, ?_, ?_, ?_⟩
  · unfold Task.ofRequest
    cases step.state with
    | flying flight => simpa [hacts] using hleg
    | settled outcome => simpa [signals_afterRequest, hacts] using hleg
  · unfold Task.ofRequest
    cases step.state with
    | flying flight => exact hshared
    | settled outcome => exact (afterRequest_shared _ _).trans hshared
  · unfold Task.ofRequest
    cases hstate : step.state with
    | flying flight =>
      rw [hstate] at hflight
      exact hflight
    | settled outcome =>
      rw [hstate] at hflight
      exact (afterRequest_flight? _ _).trans hflight

theorem task_request_follows (trigger : Trigger) (hacts : signals acts = [])
    (h : airspace.flight? number = none) :
    (Task.request coordinator now airspace.shared task trigger acts).Follows coordinator airspace
      none number :=
  ofRequest_follows _ none hacts (request_follows trigger h)

theorem stop_follows (hacts : signals acts = []) (h : airspace.flight? number = none) :
    (Task.stop airspace.shared task acts).Follows coordinator airspace none number :=
  TaskStep.follows_quiet _ ((signals_stop _).trans hacts) rfl h.symm

theorem turn_follows (hacts : signals acts = []) (h : airspace.flight? number = none) :
    (Task.turn coordinator now airspace.shared task acts).Follows coordinator airspace none
      number := by
  unfold Task.turn
  split
  · exact stop_follows hacts h
  · exact task_request_follows .timer hacts h

theorem enterLoop_follows (hacts : signals acts = []) (h : airspace.flight? number = none) :
    (Task.enterLoop coordinator now airspace.shared task acts).Follows coordinator airspace none
      number :=
  turn_follows (by simp [hacts]) h

theorem startWatcher_follows (hacts : signals acts = []) (h : airspace.flight? number = none) :
    (Task.startWatcher coordinator now airspace.shared task acts).Follows coordinator airspace
      none number := by
  unfold Task.startWatcher
  split
  · exact TaskStep.follows_quiet _ (by simp [hacts, Act.isSignal]) rfl h.symm
  · exact enterLoop_follows (by simp [hacts]) h

theorem start_follows (errand : Errand) (cancelled : Bool) (h : airspace.flight? number = none) :
    (Task.start coordinator now airspace.shared errand cancelled).Follows coordinator airspace
      none number := by
  unfold Task.start
  cases errand with
  | request trigger => exact task_request_follows trigger rfl h
  | change => exact task_request_follows .fileChange rfl h
  | message channel payload => exact task_request_follows (.notification channel payload) rfl h
  | «loop» forever =>
    simp only
    split
    · exact TaskStep.follows_quiet _ rfl rfl h.symm
    · exact startWatcher_follows rfl h

theorem signals_subscribed (channel : String) (result : Except AdapterError Unit) :
    signals (Task.subscribed channel result) = [] := by
  cases result <;> rfl

theorem signals_watcherStarted (root : Path) (result : Except AdapterError Unit) :
    signals (Task.watcherStarted root result) = [] := by
  cases result <;> rfl

/-- Only the owner of the gate hears answers that count. -/
theorem resume_follows (answer : Answer) (h : task.flight? = airspace.flight? number) :
    (Task.resume coordinator now airspace.shared task answer).Follows coordinator airspace
      (airspace.heard number answer) number := by
  have hground : task.flight? = none → airspace.heard number answer = none := by
    intro hnone
    simp [Airspace.heard, ← h, hnone]
  cases hstage : task.stage with
  | flying flight =>
    have hflight : airspace.flight? number = some flight := by
      rw [← h]
      simp [Task.flight?, hstage]
    obtain ⟨owner, rfl, rfl, rfl⟩ := flight?_eq_some hflight
    have hheard : (Airspace.taken owner).heard owner.number answer = some answer := by
      simp [Airspace.heard, hflight]
    rw [hheard]
    simp only [Task.resume, hstage]
    exact ofRequest_follows _ _ rfl (flight_resume_follows owner answer)
  | subscribing =>
    have hnone : task.flight? = none := by simp [Task.flight?, hstage]
    rw [hground hnone]
    simp only [Task.resume, hstage]
    cases answer with
    | replied result =>
      exact startWatcher_follows (signals_subscribed _ result) (h.symm.trans hnone)
    | pulled result => exact TaskStep.follows_quiet _ rfl rfl h
    | pushed result => exact TaskStep.follows_quiet _ rfl rfl h
  | watching =>
    have hnone : task.flight? = none := by simp [Task.flight?, hstage]
    rw [hground hnone]
    simp only [Task.resume, hstage]
    cases answer with
    | replied result =>
      exact enterLoop_follows (signals_watcherStarted _ result) (h.symm.trans hnone)
    | pulled result => exact TaskStep.follows_quiet _ rfl rfl h
    | pushed result => exact TaskStep.follows_quiet _ rfl rfl h
  | ready =>
    rw [hground (by simp [Task.flight?, hstage])]
    simp only [Task.resume, hstage]
    exact TaskStep.follows_quiet _ rfl rfl h
  | sleeping wakeAt =>
    rw [hground (by simp [Task.flight?, hstage])]
    simp only [Task.resume, hstage]
    exact TaskStep.follows_quiet _ rfl rfl h
  | «over» ending =>
    rw [hground (by simp [Task.flight?, hstage])]
    simp only [Task.resume, hstage]
    exact TaskStep.follows_quiet _ rfl rfl h

theorem signals_complaint (message : String) (error : Option SyncError) :
    signals (Flight.complaint message error) = [] := by
  cases error <;> rfl

theorem leave_follows (ending : Ending) (hloss : ending.isLoss = true)
    (h : airspace.flight? number = none) :
    (Task.finish airspace.shared task ending []).Follows coordinator airspace none number := by
  refine ⟨airspace, ?_, rfl, h.symm⟩
  simp only [Task.finish, List.nil_append, signals_cons, Act.isSignal_finish, hloss, if_true,
    signals_nil]
  exact .leave airspace number ending hloss h

theorem abandon_follows (ending : Ending) (hloss : ending.isLoss = true)
    (h : task.flight? = airspace.flight? number) :
    (Task.abandon airspace.shared task ending).Follows coordinator airspace none number := by
  cases hstage : task.stage with
  | flying flight =>
    have hflight : airspace.flight? number = some flight := by
      rw [← h]
      simp [Task.flight?, hstage]
    obtain ⟨owner, rfl, rfl, rfl⟩ := flight?_eq_some hflight
    refine ⟨.clear owner.passId, ?_, ?_, ?_⟩
    · simp only [Task.abandon, hstage, Task.finish, Flight.abandon, signals_append,
        signals_complaint, signals_cons, Act.isSignal_finish, hloss, if_true, signals_nil,
        List.nil_append]
      exact .abandon owner ending hloss
    · simp only [Task.abandon, hstage]
      rfl
    · simp only [Task.abandon, hstage]
      rfl
  | «over» before =>
    simp only [Task.abandon, hstage]
    exact TaskStep.follows_quiet _ rfl rfl h
  | ready | subscribing | watching | sleeping wakeAt =>
    have hnone : task.flight? = none := by simp [Task.flight?, hstage]
    simp only [Task.abandon, hstage]
    exact leave_follows ending hloss (h.symm.trans hnone)

theorem cancel_follows (h : task.flight? = airspace.flight? number) :
    (Task.cancel airspace.shared task).Follows coordinator airspace none number := by
  unfold Task.cancel
  split
  · rename_i hstage
    have hnone : task.flight? = none := by simp [Task.flight?, hstage]
    exact stop_follows rfl (h.symm.trans hnone)
  · exact TaskStep.follows_quiet _ rfl rfl h
  · exact TaskStep.follows_quiet _ rfl rfl h
  · exact TaskStep.follows_quiet _ rfl rfl h

theorem wake_follows (h : task.flight? = airspace.flight? number) :
    (Task.wake coordinator now airspace.shared task).Follows coordinator airspace none number := by
  unfold Task.wake
  split
  · rename_i hstage
    have hnone : task.flight? = none := by simp [Task.flight?, hstage]
    split
    · exact turn_follows rfl (h.symm.trans hnone)
    · exact TaskStep.follows_quiet _ rfl rfl h
  · exact TaskStep.follows_quiet _ rfl rfl h

end ReplicaSync
