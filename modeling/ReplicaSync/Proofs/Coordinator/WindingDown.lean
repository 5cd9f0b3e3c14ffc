import ReplicaSync.Proofs.Coordinator.Bystanders

/-!
# Loops that wind down

A loop whose cancellation was requested makes no request any more. If one that it has made is
answered the loop stops, and the answer is followed by the last words of the loop and by nothing
else. Main statements: `stretch_windsDown`, one lemma for each function leading up to it, and
`IsCancelled.noRequest` and `IsCancelled.returns` for whole runs.
-/

namespace ReplicaSync

/-! ### Stretches -/

namespace Task

/-- The last acts of a loop that stops. -/
def farewell : List Act := [note .info "Watch loop stopped" [], .finish .stopped]

theorem stop_eq (shared : Shared) (task : Task) (acts : List Act) :
    task.stop shared acts = ⟨shared, { task with stage := .over .stopped }, acts ++ farewell⟩ := by
  simp only [stop, finish, farewell, List.append_assoc, List.singleton_append]

end Task

/-- The stretch of a loop shows no request and no answer, or the answer with which it stops. -/
def TaskStep.WindsDown (step : TaskStep) (config : WatchConfig) : Prop :=
  exchanges step.acts = [] ∨
    ∃ before outcome, exchanges before = [] ∧ step.task.stage = .over .stopped ∧
      step.acts = before ++ .settle outcome :: Task.loopRecord config outcome :: Task.farewell

/-- A request that is settled shows nothing after its answer. -/
def RequestStep.EndsSettled (step : RequestStep) : Prop :=
  ∀ outcome, step.state = .settled outcome → ∃ before, step.acts = before ++ [.settle outcome]

theorem endPass_endsSettled (shared : Shared) (flight : Flight) (last : PassStatus)
    (error : Option String) (acts : List Act) :
    (Flight.endPass shared flight last error acts).EndsSettled := by
  intro outcome hsettled
  unfold Flight.endPass at hsettled ⊢
  simp only at hsettled ⊢
  split at hsettled
  · cases hsettled
  · rename_i hfree
    cases hsettled
    rw [if_neg hfree]
    exact ⟨_, rfl⟩

theorem endsSettled_flying {step : RequestStep} {next : Flight} (h : step.state = .flying next) :
    step.EndsSettled := by
  intro outcome hsettled
  rw [h] at hsettled
  cases hsettled

theorem afterPush_endsSettled (coordinator : Coordinator) (shared : Shared) (flight : Flight)
    (result : PushResult) :
    (Flight.afterPush coordinator shared flight result).EndsSettled := by
  unfold Flight.afterPush
  split
  · simp only
    split
    · exact endsSettled_flying rfl
    · exact endPass_endsSettled _ _ _ _ _
  · exact endPass_endsSettled _ _ _ _ _

theorem afterAnnounce_endsSettled (coordinator : Coordinator) (shared : Shared) (flight : Flight)
    (result : Except AdapterError Unit) :
    (Flight.afterAnnounce coordinator shared flight result).EndsSettled := by
  cases result with
  | ok => exact endPass_endsSettled _ _ _ _ _
  | error => exact endPass_endsSettled _ _ _ _ _

theorem flight_resume_endsSettled (coordinator : Coordinator) (shared : Shared) (flight : Flight)
    (answer : Answer) : (flight.resume coordinator shared answer).EndsSettled := by
  unfold Flight.resume
  split
  · split
    · exact endsSettled_flying rfl
    · exact endPass_endsSettled _ _ _ _ _
    · exact endsSettled_flying rfl
  · split
    · exact afterPush_endsSettled _ _ _ _
    · exact endPass_endsSettled _ _ _ _ _
    · exact endsSettled_flying rfl
  · split
    · exact afterAnnounce_endsSettled _ _ _ _
    · exact endsSettled_flying rfl

section Tasks

variable {coordinator : Coordinator} {now : Nat} {task : Task} {acts : List Act}

theorem exchanges_farewell : exchanges Task.farewell = [] := rfl

theorem exchanges_lastWords (config : WatchConfig) (outcome : RequestOutcome) :
    exchanges (Task.loopRecord config outcome :: Task.farewell) = [] := by
  rw [exchanges_cons, Task.isExchange_loopRecord, if_neg Bool.false_ne_true, exchanges_farewell]

theorem TaskStep.WindsDown.noRequest {step : TaskStep} {config : WatchConfig}
    (h : step.WindsDown config) (trigger : Trigger) : .request trigger ∉ exchanges step.acts := by
  rcases h with hnone | ⟨before, outcome, hbefore, _, hacts⟩
  · rw [hnone]
    exact List.not_mem_nil
  · rw [hacts, exchanges_append, hbefore, exchanges_cons, exchanges_lastWords]
    intro hmem
    cases List.mem_singleton.mp hmem

theorem turn_cancelled (shared : Shared) (hcancelled : task.cancelled = true) :
    task.turn coordinator now shared acts = task.stop shared acts :=
  if_pos hcancelled

theorem turn_windsDown (shared : Shared) (hcancelled : task.cancelled = true)
    (hacts : exchanges acts = []) :
    (task.turn coordinator now shared acts).WindsDown coordinator.config := by
  refine .inl ?_
  rw [turn_cancelled shared hcancelled, Task.stop_eq]
  simp only [exchanges_append, hacts, exchanges_farewell, List.append_nil]

theorem enterLoop_windsDown (shared : Shared) (hcancelled : task.cancelled = true)
    (hacts : exchanges acts = []) :
    (task.enterLoop coordinator now shared acts).WindsDown coordinator.config :=
  turn_windsDown shared hcancelled (by simp [hacts])

theorem startWatcher_windsDown (shared : Shared) (hcancelled : task.cancelled = true)
    (hacts : exchanges acts = []) :
    (task.startWatcher coordinator now shared acts).WindsDown coordinator.config := by
  unfold Task.startWatcher
  split
  · exact .inl (by simp [hacts, Act.isExchange])
  · exact enterLoop_windsDown shared hcancelled (by simp [hacts])

theorem ofRequest_windsDown (hloop : task.errand.isLoop = true) (hcancelled : task.cancelled = true)
    {step : RequestStep} (hstep : step.Exchanges []) (hends : step.EndsSettled) :
    (task.ofRequest coordinator now [] step).WindsDown coordinator.config := by
  unfold Task.ofRequest
  unfold RequestStep.Exchanges at hstep
  split
  · rename_i flight hstate
    rw [hstate] at hstep
    exact .inl hstep
  · rename_i outcome hstate
    rw [hstate] at hstep
    obtain ⟨before, hacts⟩ := hends outcome hstate
    rw [hacts, exchanges_append] at hstep
    refine .inr ⟨before, outcome, List.append_cancel_right hstep, ?_⟩
    unfold Task.afterRequest
    cases herrand : task.errand with
    | request | change | message =>
      rw [herrand] at hloop
      cases hloop
    | «loop» forever =>
      simp only [if_pos hcancelled, Task.stop_eq, hacts, List.nil_append, List.append_assoc]
      exact ⟨trivial, rfl⟩

theorem resume_windsDown (shared : Shared) (answer : Answer) (hloop : task.errand.isLoop = true)
    (hcancelled : task.cancelled = true) :
    (task.resume coordinator now shared answer).WindsDown coordinator.config := by
  unfold Task.resume
  cases hstage : task.stage with
  | subscribing =>
    cases answer with
    | replied result =>
      exact startWatcher_windsDown shared hcancelled (exchanges_subscribed _ result)
    | pulled | pushed => exact .inl rfl
  | watching =>
    cases answer with
    | replied result =>
      exact enterLoop_windsDown shared hcancelled (exchanges_watcherStarted _ result)
    | pulled | pushed => exact .inl rfl
  | flying flight =>
    exact ofRequest_windsDown hloop hcancelled
      (flight_resume_exchanges coordinator shared flight answer)
      (flight_resume_endsSettled coordinator shared flight answer)
  | ready | sleeping | «over» => exact .inl rfl

theorem wake_windsDown (shared : Shared) (hcancelled : task.cancelled = true) :
    (task.wake coordinator now shared).WindsDown coordinator.config := by
  unfold Task.wake
  split
  · split
    · exact turn_windsDown shared hcancelled rfl
    · exact .inl rfl
  · exact .inl rfl

theorem start_windsDown (shared : Shared) (forever : Bool) :
    (Task.start coordinator now shared (.loop forever) true).WindsDown coordinator.config := by
  unfold Task.start
  simp only
  split
  · exact .inl rfl
  · exact startWatcher_windsDown shared rfl rfl

end Tasks

namespace World

variable {world : World} {number : Nat} {task : Task}

theorem stretch_windsDown (world : World) (number : Nat) (hloop : task.errand.isLoop = true)
    (hcancelled : task.cancelled = true) (move : Move) :
    (world.stretch move number task).WindsDown world.coordinator.config := by
  apply @stretch_rel world number task task
    (fun step _ => step.WindsDown world.coordinator.config) move
  · exact .inl rfl
  · exact fun reply _ => resume_windsDown world.shared reply hloop hcancelled
  · exact fun _ => wake_windsDown world.shared hcancelled
  · exact fun ending _ => .inl (abandon_loses world.shared task ending).quiet
  · exact fun _ => .inl (cancel_cancels world.shared task).quiet

/-- There is such a loop, and its cancellation was requested. -/
def IsCancelled (world : World) (number : Nat) : Prop :=
  ∃ task, world.tasks[number]? = some task ∧ task.errand.isLoop = true ∧ task.cancelled = true

theorem stretch_cancelled (world : World) (number : Nat) (hloop : task.errand.isLoop = true)
    (hcancelled : task.cancelled = true) (move : Move) :
    (world.stretch move number task).task.cancelled = true := by
  rcases world.stretch_cases number (fun _ => hloop) move with hround | ⟨ending, hloss⟩ |
    ⟨_, hcancel⟩
  · exact hround.cancelled.trans hcancelled
  · exact (stretch_loses task hloss).cancelled.trans hcancelled
  · exact hcancel.cancelled hcancelled

theorem stretch_isLoop (world : World) (number : Nat) (hloop : task.errand.isLoop = true)
    (move : Move) : (world.stretch move number task).task.errand.isLoop = true := by
  rw [stretch_errand world number (fun _ => hloop), hloop]

theorem IsCancelled.step (h : world.IsCancelled number) (move : Move) :
    (world.step move).1.IsCancelled number := by
  obtain ⟨task, htask, hloop, hcancelled⟩ := h
  exact ⟨_, (step_task htask move).1, world.stretch_isLoop number hloop move,
    world.stretch_cancelled number hloop hcancelled move⟩

theorem IsCancelled.run (h : world.IsCancelled number) (moves : List Move) :
    (world.run moves).1.IsCancelled number := by
  induction moves generalizing world with
  | nil => exact h
  | cons move rest ih => exact ih (h.step move)

theorem start_cancelled (world : World) (forever : Bool) :
    (world.step (.start (.loop forever) true)).1.IsCancelled world.tasks.length := by
  have hround : (Task.start world.coordinator world.now world.shared (.loop forever) true).Rounds
      world.coordinator world.now ⟨.loop forever, true, .ready⟩ :=
    start_rounds world.shared (.loop forever) true
  refine ⟨_, step_begun rfl, ?_, hround.cancelled⟩
  rw [hround.errand]
  rfl

/-- The notes show no request and no answer of the task, or the answer with which it stops. -/
def Tails (config : WatchConfig) (time number : Nat) (notes : List Note) : Prop :=
  exchangesOf number notes = [] ∨
    ∃ before outcome, exchangesOf number before = [] ∧ notes = before ++
      Note.ofActs time number (.settle outcome :: Task.loopRecord config outcome :: Task.farewell)

theorem IsCancelled.tails (h : world.IsCancelled number) (move : Move) :
    Tails world.coordinator.config world.now number (world.step move).2 ∧
      (exchangesOf number (world.step move).2 ≠ [] → (world.step move).1.IsOver number) := by
  obtain ⟨task, htask, hloop, hcancelled⟩ := h
  obtain ⟨hafter, hexchanges⟩ := step_task htask move
  rcases world.stretch_windsDown number hloop hcancelled move with
    hquiet | ⟨before, outcome, hbefore, hover, hacts⟩
  · have hnone : exchangesOf number (world.step move).2 = [] := by
      rw [hexchanges, hquiet]
      rfl
    exact ⟨.inl hnone, fun hsome => (hsome hnone).elim⟩
  · refine ⟨?_, fun _ => ⟨_, _, hafter, hover⟩⟩
    by_cases hmover : world.mover move = some number
    · obtain ⟨records, hnotes⟩ := step_own htask hmover
      refine .inr ⟨Note.ofActs world.now number (records.map .log ++ before), outcome, ?_, ?_⟩
      · have hrecords : exchanges (records.map .log) = [] := by
          simp [exchanges, Act.isExchange]
        rw [exchangesOf_ofActs, exchanges_append, hrecords, hbefore]
        rfl
      · rw [hnotes, hacts, ← Note.ofActs_append, List.append_assoc]
    · refine .inl (List.filter_eq_nil_iff.mpr fun note hmem => ?_)
      simp [step_bystander hmover note hmem]

theorem IsCancelled.noRequest (h : world.IsCancelled number) (moves : List Move) (time : Nat)
    (trigger : Trigger) : ⟨time, some number, .request trigger⟩ ∉ (world.run moves).2 := by
  induction moves generalizing world with
  | nil => exact List.not_mem_nil
  | cons move rest ih =>
    rw [run_cons]
    intro hmem
    rcases List.mem_append.mp hmem with hfirst | hrest
    · obtain ⟨task, htask, hloop, hcancelled⟩ := h
      have hexchange := mem_exchangesOf hfirst rfl
      rw [(step_task htask move).2] at hexchange
      have hwinds := world.stretch_windsDown number hloop hcancelled move
      exact hwinds.noRequest trigger (Note.mem_ofActs.mp hexchange).2.2
    · exact ih (h.step move) hrest

theorem IsCancelled.returns (h : world.IsCancelled number) (moves : List Move)
    {past after : List Note} {time : Nat} {outcome : RequestOutcome}
    (hsplit : (world.run moves).2 = past ++ ⟨time, some number, .settle outcome⟩ :: after) :
    ∃ rest, after = Note.ofActs time number
        (Task.loopRecord world.coordinator.config outcome :: Task.farewell) ++ rest ∧
      ∀ note ∈ rest, note.task ≠ some number := by
  induction moves generalizing world past with
  | nil => cases past <;> cases hsplit
  | cons move rest ih =>
    rw [run_cons] at hsplit
    rcases append_eq_split hsplit with ⟨tail, hfirst, rfl⟩ | ⟨middle, hrest, _⟩
    · -- the answer comes in this move, which has nothing but the last words after it
      have hexchange : ⟨time, some number, .settle outcome⟩ ∈
          exchangesOf number (world.step move).2 := by
        rw [hfirst]
        exact mem_exchangesOf (by simp) rfl
      obtain ⟨htails, hover⟩ := h.tails move
      have hsilent := (hover (List.ne_nil_of_mem hexchange)).silent_run rest
      rcases htails with hnone | ⟨before, settled, hnone, hnotes⟩
      · exact (List.ne_nil_of_mem hexchange hnone).elim
      · rw [hnotes] at hfirst
        rcases Note.append_ofActs_eq_split hfirst with
          ⟨later, hbefore, _⟩ | ⟨a, b, hacts, _, rfl, rfl, _⟩
        · refine (@exchange_notMem number (.settle outcome) before hnone rfl time ?_).elim
          rw [hbefore]
          simp
        · cases a with
          | nil =>
            cases hacts
            exact ⟨_, rfl, hsilent⟩
          | cons first a =>
            -- the loop says nothing after its answer that could be another one
            have hlast : .settle outcome ∈ exchanges
                (Task.loopRecord world.coordinator.config settled :: Task.farewell) := by
              rw [(List.cons.inj hacts).2]
              exact List.mem_filter.mpr ⟨by simp, rfl⟩
            rw [exchanges_lastWords] at hlast
            cases hlast
    · have hlater := ih (h.step move) hrest
      rw [step_coordinator] at hlater
      exact hlater

end World

end ReplicaSync
