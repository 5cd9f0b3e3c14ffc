import ReplicaSync.Proofs.Coordinator.Exchanges

/-!
# Rounds

Seen from one task, a run is a sequence of requests and their answers. A round is what one stretch
does to them: the task still waits, makes its request, hears the answer, or both at once if it is
refused. A loop then sleeps for its interval, every other task is done. Main statements:
`start_rounds`, `resume_rounds` and `wake_rounds`; a lost or cancelled task makes no request.
-/

namespace ReplicaSync

/-! ### Rounds -/

/-- The trigger of the requests that a task makes. -/
def Errand.trigger : Errand → Trigger
  | .request trigger => trigger
  | .change => .fileChange
  | .message channel payload => .notification channel payload
  | .loop _ => .timer

def Errand.isLoop : Errand → Bool
  | .loop _ => true
  | _ => false

theorem Errand.trigger_of_isLoop {errand : Errand} (h : errand.isLoop = true) :
    errand.trigger = .timer := by
  cases errand with
  | «loop» => rfl
  | request | change | message => cases h

namespace Stage

/-- The task has not made its first request. -/
def isListening : Stage → Bool
  | .ready | .subscribing | .watching => true
  | _ => false

/-- Only a loop stays here. -/
def ofLoop : Stage → Bool
  | .ready | .subscribing | .watching | .sleeping _ => true
  | _ => false

/-- The task may make a request at this time. -/
def mayAsk (now : Nat) : Stage → Bool
  | .ready | .subscribing | .watching => true
  | .sleeping wakeAt => wakeAt ≤ now
  | _ => false

theorem mayAsk_of_isListening {now : Nat} {stage : Stage} (h : stage.isListening = true) :
    stage.mayAsk now = true := by
  cases stage with
  | ready | subscribing | watching => rfl
  | flying | sleeping | «over» => cases h

end Stage

/-- How long a loop sleeps. -/
def Coordinator.pause (coordinator : Coordinator) : Nat := coordinator.config.interval.sleepTicks

section Rounds

variable (coordinator : Coordinator) (now : Nat) (errand : Errand) (cancelled : Bool)

/-- Where a task is when its request was answered at this time. -/
inductive Rests : Stage → Prop where
  | done (ending : Ending) (h : errand.isLoop = false) : Rests (.over ending)
  | stopped (hloop : errand.isLoop = true) (h : cancelled = true) : Rests (.over .stopped)
  | sleeps (hloop : errand.isLoop = true) (h : cancelled = false) :
    Rests (.sleeping (now + coordinator.pause))

/-- A task turns to its next request: the pass begins, or the answer is there at once. A loop that
was cancelled ends instead. -/
inductive Turn : List Act → Stage → Prop where
  | stops (hloop : errand.isLoop = true) (h : cancelled = true) : Turn [] (.over .stopped)
  | enters (flight : Flight) : Turn [.request errand.trigger] (.flying flight)
  | refused (outcome : RequestOutcome) (after : Stage)
      (h : Rests coordinator now errand cancelled after) :
    Turn [.request errand.trigger, .settle outcome] after

/-- What a stretch does to the requests of its task. -/
inductive Round : Stage → List Act → Stage → Prop where
  | waits (stage : Stage) : Round stage [] stage
  | listens (before after : Stage) (hloop : errand.isLoop = true)
      (hbefore : before.isListening = true) (hafter : after.isListening = true) :
    Round before [] after
  | turns (before after : Stage) (acts : List Act) (hbefore : before.mayAsk now = true)
      (h : Turn coordinator now errand cancelled acts after) : Round before acts after
  | flies (flight next : Flight) : Round (.flying flight) [] (.flying next)
  | answered (flight : Flight) (after : Stage) (outcome : RequestOutcome)
      (h : Rests coordinator now errand cancelled after) :
    Round (.flying flight) [.settle outcome] after

variable {coordinator now errand cancelled}

theorem Rests.placed {after : Stage} (h : Rests coordinator now errand cancelled after)
    (hafter : after.ofLoop = true) : errand.isLoop = true := by
  cases h with
  | done | stopped => cases hafter
  | sleeps hloop => exact hloop

theorem Turn.placed {acts : List Act} {after : Stage}
    (h : Turn coordinator now errand cancelled acts after) (hafter : after.ofLoop = true) :
    errand.isLoop = true := by
  cases h with
  | stops | enters => cases hafter
  | refused outcome _ h => exact h.placed hafter

theorem Rests.isListening {after : Stage} (h : Rests coordinator now errand cancelled after) :
    after.isListening = false := by
  cases h with
  | done | stopped | sleeps => rfl

theorem Turn.isListening {acts : List Act} {after : Stage}
    (h : Turn coordinator now errand cancelled acts after) : after.isListening = false := by
  cases h with
  | stops | enters => rfl
  | refused outcome _ h => exact h.isListening

theorem Round.placed {before after : Stage} {acts : List Act}
    (h : Round coordinator now errand cancelled before acts after)
    (hplace : before.ofLoop = true → errand.isLoop = true) (hafter : after.ofLoop = true) :
    errand.isLoop = true := by
  cases h with
  | waits => exact hplace hafter
  | listens _ _ hloop => exact hloop
  | turns _ _ _ _ h => exact h.placed hafter
  | flies => cases hafter
  | answered _ _ _ h => exact h.placed hafter

/-- A task that has turned to its first request listens no more. -/
theorem Round.isListening {before after : Stage} {acts : List Act}
    (h : Round coordinator now errand cancelled before acts after)
    (hbefore : before.isListening = false) : after.isListening = false := by
  cases h with
  | waits => exact hbefore
  | listens _ _ _ hlistens =>
    rw [hbefore] at hlistens
    cases hlistens
  | turns _ _ _ _ h => exact h.isListening
  | flies => rfl
  | answered _ _ _ h => exact h.isListening

theorem Rests.wakes {due : Nat} (h : Rests coordinator now errand cancelled (.sleeping due)) :
    due = now + coordinator.pause := by
  cases h with
  | sleeps => rfl

/-- A loop that sleeps after a round slept before, or sleeps for its interval from now on. -/
theorem Round.wakes {before : Stage} {acts : List Act} {due : Nat}
    (h : Round coordinator now errand cancelled before acts (.sleeping due)) :
    before = .sleeping due ∨ due = now + coordinator.pause := by
  cases h with
  | waits => exact .inl rfl
  | listens _ _ _ _ hafter => cases hafter
  | turns _ _ _ _ h =>
    cases h with
    | refused outcome _ h => exact .inr h.wakes
  | answered _ _ _ h => exact .inr h.wakes

end Rounds

/-- The stretch is a round of the task, and changes nothing else of it. -/
structure TaskStep.Rounds (step : TaskStep) (coordinator : Coordinator) (now : Nat) (task : Task) :
    Prop where
  errand : step.task.errand = task.errand
  cancelled : step.task.cancelled = task.cancelled
  round : Round coordinator now task.errand task.cancelled task.stage (exchanges step.acts)
    step.task.stage

/-- With the stretch the task turns to its next request, and nothing else of it changes. -/
structure TaskStep.Turns (step : TaskStep) (coordinator : Coordinator) (now : Nat) (task : Task) :
    Prop where
  errand : step.task.errand = task.errand
  cancelled : step.task.cancelled = task.cancelled
  turns : Turn coordinator now task.errand task.cancelled (exchanges step.acts) step.task.stage

theorem TaskStep.Turns.rounds {step : TaskStep} {coordinator : Coordinator} {now : Nat}
    {task : Task} (h : step.Turns coordinator now task) (hmay : task.stage.mayAsk now = true) :
    step.Rounds coordinator now task :=
  ⟨h.errand, h.cancelled, .turns _ _ _ hmay h.turns⟩

/-- The task goes away, unless it was over before. -/
structure TaskStep.Loses (step : TaskStep) (task : Task) (ending : Ending) : Prop where
  errand : step.task.errand = task.errand
  cancelled : step.task.cancelled = task.cancelled
  quiet : exchanges step.acts = []
  stage : step.task.stage = .over ending ∨
    step.task.stage = task.stage ∧ ∃ last, task.stage = .over last

/-- The task is cancelled, and if it is a loop that sleeps it ends. -/
structure TaskStep.Cancels (step : TaskStep) (task : Task) : Prop where
  errand : step.task.errand = task.errand
  cancelled : task.cancelled = true → step.task.cancelled = true
  quiet : exchanges step.acts = []
  stage : step.task.stage = task.stage ∧
      (∀ wakeAt, task.stage = .sleeping wakeAt → step.task.cancelled = task.cancelled) ∨
    step.task.cancelled = true ∧ step.task.stage = .over .stopped ∧
      ∃ wakeAt, task.stage = .sleeping wakeAt

section Tasks

variable {coordinator : Coordinator} {now : Nat} {task : Task} {acts : List Act}

theorem rounds_still (shared : Shared) :
    (TaskStep.mk shared task []).Rounds coordinator now task :=
  ⟨rfl, rfl, .waits _⟩

theorem afterRequest_rests (coordinator : Coordinator) (now : Nat) (shared : Shared) (task : Task)
    (outcome : RequestOutcome) (acts : List Act) :
    let step := Task.afterRequest coordinator now shared task outcome acts
    step.task.errand = task.errand ∧ step.task.cancelled = task.cancelled ∧
      exchanges step.acts = exchanges acts ∧
      Rests coordinator now task.errand task.cancelled step.task.stage := by
  obtain ⟨errand, cancelled, stage⟩ := task
  unfold Task.afterRequest
  -- only a loop goes on after an answer, and only one that was not cancelled
  cases errand with
  | request trigger => exact ⟨rfl, rfl, by simp [Task.finish], .done _ rfl⟩
  | change | message =>
    cases hfailure : Task.failure? outcome with
    | none | some => exact ⟨rfl, rfl, by simp [Task.finish], .done _ rfl⟩
  | «loop» forever =>
    cases cancelled with
    | true => exact ⟨rfl, rfl, by simp [Task.stop, Task.finish], .stopped rfl rfl⟩
    | false => exact ⟨rfl, rfl, by simp, .sleeps rfl rfl⟩

theorem request_turns (shared : Shared) (hacts : exchanges acts = []) :
    (Task.request coordinator now shared task task.errand.trigger acts).Turns coordinator now
      task := by
  have hexchanges := request_exchanges coordinator.config.policy shared task.errand.trigger
  unfold Task.request Task.ofRequest
  unfold RequestStep.Exchanges at hexchanges
  split
  · rename_i flight hstate
    rw [hstate] at hexchanges
    refine ⟨rfl, rfl, ?_⟩
    simp only [exchanges_append, hacts, hexchanges, List.nil_append]
    exact .enters flight
  · rename_i outcome hstate
    rw [hstate] at hexchanges
    obtain ⟨herrand, hcancelled, hasked, hrests⟩ := afterRequest_rests coordinator now
      (Flight.request coordinator.config.policy shared task.errand.trigger).shared task outcome
      (acts ++ (Flight.request coordinator.config.policy shared task.errand.trigger).acts)
    refine ⟨herrand, hcancelled, ?_⟩
    rw [hasked, exchanges_append, hacts, hexchanges]
    exact .refused outcome _ hrests

theorem turn_turns (shared : Shared) (hacts : exchanges acts = [])
    (hloop : task.errand.isLoop = true) :
    (Task.turn coordinator now shared task acts).Turns coordinator now task := by
  unfold Task.turn
  split
  · rename_i hcancelled
    have hnone : exchanges (Task.stop shared task acts).acts = [] := by
      simp [Task.stop, Task.finish, hacts]
    refine ⟨rfl, rfl, ?_⟩
    rw [hnone]
    exact .stops hloop hcancelled
  · rw [← Errand.trigger_of_isLoop hloop]
    exact request_turns shared hacts

theorem enterLoop_turns (shared : Shared) (hacts : exchanges acts = [])
    (hloop : task.errand.isLoop = true) :
    (Task.enterLoop coordinator now shared task acts).Turns coordinator now task :=
  turn_turns shared (by simp [hacts]) hloop

theorem startWatcher_rounds (shared : Shared) (hacts : exchanges acts = [])
    (hloop : task.errand.isLoop = true) (hlistens : task.stage.isListening = true) :
    (Task.startWatcher coordinator now shared task acts).Rounds coordinator now task := by
  unfold Task.startWatcher
  split
  · refine ⟨rfl, rfl, ?_⟩
    have hnone : exchanges (acts ++ [.call (.watch coordinator.config.localDir
        coordinator.config.ignoredPaths)]) = [] := by
      simp [hacts, Act.isExchange]
    show Round _ _ _ _ _ (exchanges (acts ++ _)) _
    rw [hnone]
    exact .listens _ _ hloop hlistens rfl
  · exact (enterLoop_turns shared (by simp [hacts]) hloop).rounds
      (Stage.mayAsk_of_isListening hlistens)

/-- Every task but a loop makes its request in its first stretch. -/
theorem start_turns (shared : Shared) {errand : Errand} (cancelled : Bool)
    (h : errand.isLoop = false) :
    (Task.start coordinator now shared errand cancelled).Turns coordinator now
      ⟨errand, cancelled, .ready⟩ := by
  unfold Task.start
  cases errand with
  | request trigger => exact request_turns shared rfl
  | change => exact request_turns shared rfl
  | message channel payload => exact request_turns shared rfl
  | «loop» => cases h

theorem start_rounds (shared : Shared) (errand : Errand) (cancelled : Bool) :
    (Task.start coordinator now shared errand cancelled).Rounds coordinator now
      ⟨errand, cancelled, .ready⟩ := by
  cases hloop : errand.isLoop with
  | false => exact (start_turns shared cancelled hloop).rounds rfl
  | true =>
    cases errand with
    | request | change | message => cases hloop
    | «loop» forever =>
      unfold Task.start
      simp only
      split
      · exact ⟨rfl, rfl, .listens _ _ rfl rfl rfl⟩
      · exact startWatcher_rounds shared rfl rfl rfl

theorem exchanges_subscribed (channel : String) (result : Except AdapterError Unit) :
    exchanges (Task.subscribed channel result) = [] := by
  cases result <;> rfl

theorem exchanges_watcherStarted (root : Path) (result : Except AdapterError Unit) :
    exchanges (Task.watcherStarted root result) = [] := by
  cases result <;> rfl

theorem ofRequest_rounds {flight : Flight} (hstage : task.stage = .flying flight)
    {step : RequestStep} (hstep : step.Exchanges []) :
    (Task.ofRequest coordinator now task [] step).Rounds coordinator now task := by
  unfold Task.ofRequest
  unfold RequestStep.Exchanges at hstep
  split
  · rename_i next hstate
    rw [hstate] at hstep
    refine ⟨rfl, rfl, ?_⟩
    rw [hstage]
    show Round _ _ _ _ _ (exchanges step.acts) _
    rw [hstep]
    exact .flies flight next
  · rename_i outcome hstate
    rw [hstate] at hstep
    obtain ⟨herrand, hcancelled, hacts, hrests⟩ := afterRequest_rests coordinator now step.shared
      task outcome ([] ++ step.acts)
    refine ⟨herrand, hcancelled, ?_⟩
    rw [hacts, hstage]
    show Round _ _ _ _ _ (exchanges step.acts) _
    rw [hstep]
    exact .answered flight _ outcome hrests

theorem resume_rounds (shared : Shared) (answer : Answer)
    (hplace : task.stage.ofLoop = true → task.errand.isLoop = true) :
    (task.resume coordinator now shared answer).Rounds coordinator now task := by
  unfold Task.resume
  cases hstage : task.stage with
  | subscribing =>
    cases answer with
    | replied result =>
      rw [hstage] at hplace
      refine startWatcher_rounds shared (exchanges_subscribed _ result) (hplace rfl) ?_
      rw [hstage]
      rfl
    | pulled | pushed => exact rounds_still shared
  | watching =>
    cases answer with
    | replied result =>
      rw [hstage] at hplace
      refine (enterLoop_turns shared (exchanges_watcherStarted _ result) (hplace rfl)).rounds ?_
      rw [hstage]
      rfl
    | pulled | pushed => exact rounds_still shared
  | flying flight =>
    exact ofRequest_rounds hstage (flight_resume_exchanges coordinator shared flight answer)
  | ready | sleeping | «over» => exact rounds_still shared

theorem wake_rounds (shared : Shared)
    (hplace : task.stage.ofLoop = true → task.errand.isLoop = true) :
    (task.wake coordinator now shared).Rounds coordinator now task := by
  unfold Task.wake
  split
  · rename_i wakeAt hstage
    split
    · rename_i hdue
      rw [hstage] at hplace
      refine (turn_turns shared rfl (hplace rfl)).rounds ?_
      rw [hstage]
      exact decide_eq_true hdue
    · exact rounds_still shared
  · exact rounds_still shared

theorem abandon_loses (shared : Shared) (task : Task) (ending : Ending) :
    (task.abandon shared ending).Loses task ending := by
  unfold Task.abandon
  split
  · rename_i last hstage
    exact ⟨rfl, rfl, rfl, .inr ⟨rfl, last, hstage⟩⟩
  · refine ⟨rfl, rfl, ?_, .inl rfl⟩
    simp [Task.finish, Flight.abandon, exchanges_complaint]
  · refine ⟨rfl, rfl, ?_, .inl rfl⟩
    simp [Task.finish]

theorem cancel_cancels (shared : Shared) (task : Task) :
    (task.cancel shared).Cancels task := by
  unfold Task.cancel
  split
  · rename_i wakeAt _ hstage
    refine ⟨rfl, fun _ => rfl, ?_, .inr ⟨rfl, rfl, wakeAt, hstage⟩⟩
    simp [Task.stop, Task.finish]
  · exact ⟨rfl, id, rfl, .inl ⟨rfl, fun _ _ => rfl⟩⟩
  · rename_i hawake _
    exact ⟨rfl, fun _ => rfl, rfl, .inl ⟨rfl, fun wakeAt hstage => (hawake wakeAt hstage).elim⟩⟩
  · exact ⟨rfl, id, rfl, .inl ⟨rfl, fun _ _ => rfl⟩⟩

end Tasks

end ReplicaSync
