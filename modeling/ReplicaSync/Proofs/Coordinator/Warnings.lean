import ReplicaSync.Proofs.Coordinator.Alarms
import ReplicaSync.Proofs.Coordinator.Shutdown

/-!
# Warnings

The warning about a failed pass is written by the task that made the request, and only when the
request is answered: it tells of the last pass of the request. A failed pass during which a request
was deferred is followed by another pass, and its error is not warned of. Main statement:
`failures_told`; `failure_unwarned` is a run in which a failed pass leaves no warning.
-/

namespace ReplicaSync

/-! ### Failed passes -/

/-- The numbers and the errors of the failed passes that were published. -/
def failedPasses (notes : List Note) : List (Nat × String) := notes.filterMap (·.act.failed?)

/-- The error of a pass that hears this answer, if the answer makes it fail. -/
def Answer.failure? : Answer → Option String
  | .pulled (.error cause) => some (SyncError.pull cause).message
  | .pushed (.error cause) => some (SyncError.push cause).message
  | _ => none

/-- The passes of a run that fail, with their errors, in their order. -/
def World.failures (world : World) (moves : List Move) : List (Nat × String) :=
  (world.answered moves).filterMap fun entry => entry.2.failure?.map (Prod.mk entry.1)

theorem Verdict.failed_eq {coordinator : Coordinator} {passId : Nat} {stage : FlightStage}
    {answer : Answer} {events : List SyncEvent} {last : PassStatus} {error : Option String}
    (h : Verdict coordinator passId stage answer events last error) :
    (events.map Act.event).filterMap Act.failed? =
      (answer.failure?.map (Prod.mk passId)).toList := by
  cases h <;> rfl

/-- A leg publishes a failed pass if and only if the answer makes the running pass fail. -/
theorem Leg.failed_eq {coordinator : Coordinator} {before after : Airspace}
    {heard : Option Answer} {number : Nat} {acts : List Act}
    (h : Leg coordinator before heard number acts after) :
    acts.filterMap Act.failed? =
      (before.answeredBy heard).filterMap fun entry =>
        entry.2.failure?.map (Prod.mk entry.1) := by
  have hnone : before.answeredBy none = [] := by
    cases before <;> rfl
  cases h with
  | quiet _ _ _ hheard => rw [Airspace.answeredBy_unheard hheard]; rfl
  | leave => rw [hnone]; rfl
  | enter | abandon => rfl
  | refuse =>
    rw [hnone]
    cases coordinator.config.policy <;> rfl
  | pulled owner result hstage =>
    simp [Airspace.answeredBy, hstage, FlightStage.awaits, Answer.failure?, Act.failed?]
  | uploaded owner result hstage =>
    simp [Airspace.answeredBy, hstage, FlightStage.awaits, Answer.failure?, Act.failed?]
  | followUp owner answer events last error hpending hverdict =>
    rw [List.filterMap_append, hverdict.failed_eq, airspace_answeredBy hverdict.awaits]
    cases hfailure : answer.failure? <;> simp [hfailure, Act.failed?]
  | land owner answer events last error hpending hverdict =>
    rw [List.filterMap_append, hverdict.failed_eq, airspace_answeredBy hverdict.awaits]
    cases hfailure : answer.failure? <;> simp [hfailure, Act.failed?]

/-- In every run, the failed passes that are published are those that an answer made fail. -/
theorem World.failedPasses_run (coordinator : Coordinator)
    (resolve : Option (Path → Option Path)) (bus : EventBus) (moves : List Move) :
    let start := World.new coordinator resolve bus
    failedPasses (start.run moves).2 = start.failures moves := by
  intro start
  have hquiet : ∀ act : Act, act.isSignal = false → act.failed? = none := by
    intro act hact
    unfold Act.failed?
    split
    · cases hact
    · rfl
  obtain ⟨_, -, hfailed⟩ := World.course_induction coordinator resolve bus
    (P := fun moves notes _ => failedPasses notes = start.failures moves) rfl
    (fun moves move notes _ time number acts _ hshows hleg hfailed => by
      unfold failedPasses World.failures at hfailed ⊢
      rw [World.answered_snoc, hshows.answeredBy_eq, List.filterMap_append,
        List.filterMap_append, hfailed, filterMap_ofActs Act.failed?, hleg.failed_eq]) moves
  unfold failedPasses at hfailed
  rw [filterMap_signals Act.failed? hquiet] at hfailed
  exact hfailed

/-! ### Where failures and warnings stand -/

namespace Tells

variable {coordinator : Coordinator} {errand : Errand} {owner : Owner} {a b : List Act}

/-- Behind the event of a failed pass come the answer and the warning, or the next pass. -/
theorem at_failed {passId : Nat} {message : String}
    (h : Tells coordinator errand owner (a ++ .event (.failed passId message) :: b)) :
    passId = owner.passId ∧ signals a = [] ∧
      (owner.pending = false ∧ (∃ rest, b =
        .settle (.executed ⟨owner.passes, .failed, some message⟩) ::
          errand.warns coordinator.config message ++ rest) ∨
      owner.pending = true ∧
        b = Flight.followUpActs owner.passes (owner.passId + 1) owner.trigger) := by
  generalize hacts : a ++ .event (.failed passId message) :: b = acts at h
  have hnote : ∀ other, Act.event (.failed passId message) ∉ [Flight.note .debug "Sync pass failed"
      [("pass_id", toString owner.passId), Flight.duration, ("error", other)]] := by
    simp [Flight.note]
  cases h with
  | silent hsilent =>
    cases not_isAlarm_of_mem hsilent (.event (.failed passId message)) (by simp [← hacts])
  | goesOn other hpending =>
    have hnext : Act.event (.failed passId message) ∉
        Flight.followUpActs owner.passes (owner.passId + 1) owner.trigger := by
      simp [Flight.followUpActs, Flight.note]
    obtain ⟨rfl, hevent, rfl⟩ :=
      (List.append_cons_inj_of_notMem (hnote other) hnext).mp hacts.symm
    cases hevent
    exact ⟨rfl, rfl, .inr ⟨hpending, rfl⟩⟩
  | warns other rest hpending hrest =>
    have hafter : Act.event (.failed passId message) ∉
        .settle (.executed ⟨owner.passes, .failed, some other⟩) ::
          errand.warns coordinator.config other ++ rest := by
      intro hmem
      have hlater : Act.event (.failed passId message) ∈ rest := by
        simpa [Errand.warns] using hmem
      cases not_isAlarm_of_mem hrest _ hlater
    obtain ⟨rfl, hevent, rfl⟩ :=
      (List.append_cons_inj_of_notMem (hnote other) hafter).mp hacts.symm
    cases hevent
    exact ⟨rfl, rfl, .inl ⟨hpending, rest, rfl⟩⟩

/-- In front of a warning stand the failed pass of which it tells and the answer. -/
theorem at_warning {record : LogRecord} (halarm : record.isAlarm = true)
    (h : Tells coordinator errand owner (a ++ .log record :: b)) :
    ∃ message, errand.warning? coordinator.config message = some record ∧
      a = Flight.failedActs owner.passId message ++
        [.settle (.executed ⟨owner.passes, .failed, some message⟩)] := by
  generalize hacts : a ++ .log record :: b = acts at h
  have hplain : ∀ level message fields, level ≠ .warn →
      Act.log record ≠ Flight.note level message fields := by
    rintro level message fields hlevel ⟨⟩
    rw [LogRecord.isAlarm_of_level hlevel] at halarm
    cases halarm
  have hmem : Act.log record ∈ acts := by simp [← hacts]
  cases h with
  | silent hsilent =>
    rw [← Act.isAlarm_log, not_isAlarm_of_mem hsilent _ hmem] at halarm
    cases halarm
  | goesOn other hpending =>
    simp [Flight.failedActs, Flight.followUpActs, hplain] at hmem
  | warns other rest hpending hrest =>
    have hsilent : Act.log record ∉ rest := by
      intro hrecord
      rw [← Act.isAlarm_log, not_isAlarm_of_mem hrest _ hrecord] at halarm
      cases halarm
    have hbefore : Act.log record ∉ Flight.failedActs owner.passId other ++
        [.settle (.executed ⟨owner.passes, .failed, some other⟩)] := by
      simp [Flight.failedActs, hplain]
    cases hwarning : errand.warning? coordinator.config other with
    | none => simp [Errand.warns, hwarning, Flight.failedActs, hplain, hsilent] at hmem
    | some warning =>
      have hsplit : Flight.failedActs owner.passId other ++
          [.settle (.executed ⟨owner.passes, .failed, some other⟩)] ++ .log warning :: rest =
          a ++ .log record :: b := by
        simpa [Errand.warns, hwarning] using hacts.symm
      obtain ⟨rfl, hrecord, -⟩ := (List.append_cons_inj_of_notMem hbefore hsilent).mp hsplit
      cases hrecord
      exact ⟨other, hwarning, rfl⟩

end Tells

/-! ### Moves -/

/-- The note is a record of an adapter, not a warning of a task. -/
def Note.IsAside (note : Note) : Prop :=
  ∃ record, note.act = .log record ∧ (note.task = none ∨ record.isAlarm = false)

/-- What a move tells of failed passes: the task that runs in it may tell of one if its request owns
the gate. -/
def World.MoveTells (world : World) (airspace : Airspace) (notes : List Note) : Prop :=
  ∃ asides number acts, notes = asides ++ Note.ofActs world.now number acts ∧
    (∀ note ∈ asides, note.IsAside) ∧
    (alarms acts = [] ∨ ∃ owner task, airspace = .taken owner ∧ owner.number = number ∧
      world.tasks[number]? = some task ∧ Tells world.coordinator task.errand owner acts)

namespace World

variable {world : World} {airspace : Airspace}

theorem moveTells_asides {notes : List Note} (h : ∀ note ∈ notes, note.IsAside) :
    world.MoveTells airspace notes :=
  ⟨notes, 0, [], (List.append_nil notes).symm, h, .inl rfl⟩

theorem moveTells_log (records : List LogRecord) :
    world.MoveTells airspace (world.notes none (records.map .log)) := by
  refine moveTells_asides fun note hnote => ?_
  simp only [World.notes, List.map_map, List.mem_map, Function.comp_apply] at hnote
  obtain ⟨record, _, rfl⟩ := hnote
  exact ⟨record, rfl, .inl rfl⟩

theorem moveTells_act (number : Nat) (step : Task → TaskStep)
    (h : ∀ task, world.tasks[number]? = some task → alarms (step task).acts = [] ∨
      ∃ owner, airspace = .taken owner ∧ owner.number = number ∧
        Tells world.coordinator task.errand owner (step task).acts) :
    world.MoveTells airspace (world.act number step).2 := by
  unfold World.act
  split
  · rename_i task htask
    refine ⟨[], number, (step task).acts, rfl, List.forall_mem_nil _, ?_⟩
    refine (h task htask).imp_right ?_
    rintro ⟨owner, hairspace, hnumber, htells⟩
    exact ⟨owner, task, hairspace, hnumber, htask, htells⟩
  · exact moveTells_asides (List.forall_mem_nil _)

theorem moveTells_silent (number : Nat) (step : Task → TaskStep)
    (h : ∀ task, alarms (step task).acts = []) :
    world.MoveTells airspace (world.act number step).2 :=
  moveTells_act number step fun task _ => .inl (h task)

theorem moveTells_begin (errand : Errand) (cancelled : Bool) :
    world.MoveTells airspace (world.begin errand cancelled).2 :=
  ⟨[], _, _, rfl, List.forall_mem_nil _, .inl (start_silent _ errand cancelled)⟩

/-- The records of a watch that was started are no warnings. -/
theorem watchStarted_asides (world : World) (number : Nat) :
    ∀ note ∈ (world.watchStarted number).2, note.IsAside := by
  unfold World.watchStarted
  split
  · exact List.forall_mem_nil _
  · simp only
    split
    · rename_i watcher records hstart
      cases hstart
      intro note hnote
      simp only [World.notes, List.map_map, List.mem_map, Function.comp_apply] at hnote
      obtain ⟨record, hrecord, rfl⟩ := hnote
      refine ⟨record, rfl, .inr (LogRecord.isAlarm_of_level ?_)⟩
      rcases List.mem_append.mp hrecord with hreplaced | hstarted
      · split at hreplaced
        · cases List.mem_singleton.mp hreplaced
          simp [Watcher.note, LogRecord.make]
        · cases hreplaced
      · cases List.mem_singleton.mp hstarted
        simp [Watcher.note, LogRecord.make]
    · exact List.forall_mem_nil _

theorem moveTells_answer (hshows : world.Shows airspace) (number : Nat) (answer : Answer) :
    world.MoveTells airspace (world.answer number answer).2 := by
  have hresume : ∀ watcher, world.MoveTells airspace ({ world with watcher }.act number fun task =>
      task.resume world.coordinator world.now world.shared answer).2 := by
    intro watcher
    refine moveTells_act number _ fun task htask => ?_
    cases hflight : task.flight? with
    | none => exact .inl (resume_silent _ answer hflight)
    | some flight =>
      -- only the owner of the gate flies
      have howner := task_flight? hshows htask
      rw [hflight] at howner
      obtain ⟨owner, rfl, rfl, rfl⟩ := flight?_eq_some howner.symm
      rw [hshows.shared]
      exact .inr ⟨owner, rfl, rfl, resume_tells owner answer hflight⟩
  unfold World.answer
  split
  · obtain ⟨watcher, records, heq⟩ := watchStarted_eq world number
    have hstarted := watchStarted_asides world number
    obtain ⟨asides, mover, acts, hnotes, hasides, htells⟩ := hresume watcher
    simp only [heq] at hstarted ⊢
    refine ⟨_ ++ asides, mover, acts, ?_, List.forall_mem_append.mpr ⟨hstarted, hasides⟩, htells⟩
    rw [List.append_assoc, ← hnotes]
  · exact hresume world.watcher

theorem step_moveTells (hshows : world.Shows airspace) (move : Move) :
    world.MoveTells airspace (world.step move).2 := by
  have hnothing : world.MoveTells airspace [] := moveTells_asides (List.forall_mem_nil _)
  cases move with
  | start errand cancelled => exact moveTells_begin errand cancelled
  | answer number answer => exact moveTells_answer hshows number answer
  | panic number => exact moveTells_silent number _ fun task => abandon_silent _ task .panicked
  | drop number => exact moveTells_silent number _ fun task => abandon_silent _ task .aborted
  | cancel number => exact moveTells_silent number _ fun task => cancel_silent _ task
  | wake number => exact moveTells_silent number _ fun task => wake_silent _
  | rawError text => exact moveTells_log _
  | settle =>
    simp only [World.step]
    split
    · exact moveTells_log [Watcher.settled]
    · exact hnothing
  | callback =>
    simp only [World.step]
    split
    · exact hnothing
    · exact @moveTells_begin { world with spawned := _ } airspace .change false
  | remark record => exact moveTells_log [record]
  | raw | elapse | observe => exact hnothing

end World

/-! ### Runs -/

/-- What becomes of the error of a failed pass. If no request was deferred during the pass, its
request is answered with the error and the task warns of it. If one was, the next pass of the
request begins. -/
def ErrorGoesTo (config : WatchConfig) (errand : Errand) (page : PassLog) (time number : Nat)
    (message : String) (after : List Note) : Prop :=
  page.deferrals = 0 ∧ (∃ passes rest, after = Note.ofActs time number
      (.settle (.executed ⟨passes, .failed, some message⟩) :: errand.warns config message) ++
        rest) ∨
    0 < page.deferrals ∧ config.policy = .coalesce ∧
      ∃ passes trigger rest, after = Note.ofActs time number
        (Flight.followUpActs passes (page.number + 1) trigger) ++ rest

/-- A failed pass is published by the task that runs it, and its error goes to the warning of this
task or is left behind for the next pass. -/
def ErrorsTold (coordinator : Coordinator) (world : World) (notes : List Note) : Prop :=
  ∀ past time task passId message after,
    notes = past ++ ⟨time, task, .event (.failed passId message)⟩ :: after →
    ∃ number runner page older, task = some number ∧ world.tasks[number]? = some runner ∧
      logBook past = page :: older ∧ page.number = passId ∧ page.owner = task ∧
      ErrorGoesTo coordinator.config runner.errand page time number message after

/-- A warning tells of the pass with which the request of its task ended. -/
def WarningsTrue (coordinator : Coordinator) (world : World) (notes : List Note) : Prop :=
  ∀ past time number record after,
    notes = past ++ ⟨time, some number, .log record⟩ :: after → record.isAlarm = true →
    ∃ runner before passId passes message, world.tasks[number]? = some runner ∧
      runner.errand.warning? coordinator.config message = some record ∧
      past = before ++ Note.ofActs time number (Flight.failedActs passId message ++
        [.settle (.executed ⟨passes, .failed, some message⟩)])

theorem ErrorGoesTo.append {config : WatchConfig} {errand : Errand} {page : PassLog}
    {time number : Nat} {message : String} {after : List Note}
    (h : ErrorGoesTo config errand page time number message after) (more : List Note) :
    ErrorGoesTo config errand page time number message (after ++ more) := by
  rcases h with ⟨hnone, passes, rest, rfl⟩ | ⟨hsome, hpolicy, passes, trigger, rest, rfl⟩
  · exact .inl ⟨hnone, passes, rest ++ more, List.append_assoc _ _ _⟩
  · exact .inr ⟨hsome, hpolicy, passes, trigger, rest ++ more, List.append_assoc _ _ _⟩

/-- An alarm in a history that a move has continued stands in the old part, or among the acts of the
task that ran in the move. -/
theorem alarm_split {notes asides past after : List Note} {time number moment : Nat}
    {task : Option Nat} {act : Act} {acts : List Act}
    (h : notes ++ (asides ++ Note.ofActs time number acts) = past ++ ⟨moment, task, act⟩ :: after)
    (hasides : ∀ note ∈ asides, note.IsAside) (halarm : act.isAlarm = true)
    (htask : ∀ record, act = .log record → task ≠ none) :
    (∃ rest, notes = past ++ ⟨moment, task, act⟩ :: rest ∧
      after = rest ++ (asides ++ Note.ofActs time number acts)) ∨
    ∃ a b, acts = a ++ act :: b ∧ past = notes ++ asides ++ Note.ofActs time number a ∧
      after = Note.ofActs time number b ∧ moment = time ∧ task = some number := by
  rw [← List.append_assoc] at h
  rcases Note.append_ofActs_eq_split h with ⟨_, hbefore, rfl⟩ | hnew
  · rcases append_eq_split hbefore with ⟨rest, hold, rfl⟩ | ⟨rest, haside, rfl⟩
    · exact .inl ⟨rest, hold, List.append_assoc _ _ _⟩
    · obtain ⟨record, hact, hplain⟩ := hasides ⟨moment, task, act⟩ (haside ▸ by simp)
      simp only at hact hplain
      rcases hplain with hnone | hplain
      · exact (htask record hact hnone).elim
      · rw [hact, Act.isAlarm_log, hplain] at halarm
        cases halarm
  · exact .inr hnew

namespace World

variable {coordinator : Coordinator} {world : World} {airspace : Airspace} {notes : List Note}

/-- A task keeps its errand. -/
theorem step_errand (hworld : world.Timely) {number : Nat} {task : Task}
    (htask : world.tasks[number]? = some task) (move : Move) :
    ∃ later, (world.step move).1.tasks[number]? = some later ∧ later.errand = task.errand :=
  ⟨_, (step_task htask move).1, stretch_errand world number (hworld.placed number task htask) move⟩

theorem logBook_asides {asides : List Note} (h : ∀ note ∈ asides, note.IsAside) :
    logBook (notes ++ asides) = logBook notes := by
  have hnone : Note.signals asides = [] := by
    refine List.filter_eq_nil_iff.mpr fun note hnote => ?_
    obtain ⟨record, hact, _⟩ := h note hnote
    simp [hact]
  rw [logBook_append, hnone]
  rfl

theorem errorsTold_step (hcoordinator : world.coordinator = coordinator) (hworld : world.Timely)
    (hshows : world.Shows airspace) (howes : airspace.OwesByPolicy coordinator.config.policy)
    (hbook : BookShows coordinator.config.channelKey (logBook notes) airspace)
    (h : ErrorsTold coordinator world notes) (move : Move) :
    ErrorsTold coordinator (world.step move).1 (notes ++ (world.step move).2) := by
  subst hcoordinator
  obtain ⟨asides, mover, acts, hnotes, hasides, htells⟩ := step_moveTells hshows move
  intro past time task passId message after hsplit
  rw [hnotes] at hsplit
  rcases alarm_split hsplit hasides rfl (by simp) with
    ⟨rest, hold, rfl⟩ | ⟨a, b, rfl, rfl, rfl, rfl, rfl⟩
  · obtain ⟨number, runner, page, older, rfl, hrunner, hpage, hnumber, howner, hgoes⟩ :=
      h past time task passId message rest hold
    obtain ⟨later, hlater, herrand⟩ := step_errand hworld hrunner move
    exact ⟨number, later, page, older, rfl, hlater, hpage, hnumber, howner,
      herrand ▸ hgoes.append _⟩
  rcases htells with hsilent | ⟨owner, runner, rfl, rfl, hrunner, htells⟩
  · cases not_isAlarm_of_mem hsilent (.event (.failed passId message)) (by simp)
  obtain ⟨rfl, hquiet, hend⟩ := htells.at_failed
  obtain ⟨page, older, hpages, hpage, _⟩ := hbook
  obtain ⟨later, hlater, herrand⟩ := step_errand hworld hrunner move
  refine ⟨owner.number, later, page, older, rfl, hlater, ?_, hpage.number, hpage.held, ?_⟩
  · rw [logBook_append, logBook_asides hasides, Note.signals_ofActs, hquiet, hpages]
    rfl
  rw [herrand]
  rcases hend with ⟨hpending, rest, rfl⟩ | ⟨hpending, rfl⟩
  · have hnone : ¬ 0 < page.deferrals := by simp [← hpage.pending, hpending]
    refine .inl ⟨Nat.eq_zero_of_not_pos hnone, owner.passes,
      Note.ofActs world.now owner.number rest, ?_⟩
    simp [Note.ofActs]
  · refine .inr ⟨hpage.pending.mp hpending, howes owner rfl hpending, owner.passes,
      owner.trigger, [], ?_⟩
    rw [hpage.number, List.append_nil]

theorem warningsTrue_step (hcoordinator : world.coordinator = coordinator)
    (hworld : world.Timely) (hshows : world.Shows airspace)
    (h : WarningsTrue coordinator world notes) (move : Move) :
    WarningsTrue coordinator (world.step move).1 (notes ++ (world.step move).2) := by
  subst hcoordinator
  obtain ⟨asides, mover, acts, hnotes, hasides, htells⟩ := step_moveTells hshows move
  intro past time number record after hsplit halarm
  rw [hnotes] at hsplit
  rcases alarm_split hsplit hasides halarm (by simp) with
    ⟨rest, hold, rfl⟩ | ⟨a, b, rfl, rfl, rfl, rfl, hmover⟩
  · obtain ⟨runner, before, passId, passes, message, hrunner, hwarning, hpast⟩ :=
      h past time number record rest hold halarm
    obtain ⟨later, hlater, herrand⟩ := step_errand hworld hrunner move
    exact ⟨later, before, passId, passes, message, hlater, herrand ▸ hwarning, hpast⟩
  cases hmover
  rcases htells with hsilent | ⟨owner, runner, rfl, rfl, hrunner, htells⟩
  · rw [← Act.isAlarm_log, not_isAlarm_of_mem hsilent _ (by simp)] at halarm
    cases halarm
  obtain ⟨message, hwarning, rfl⟩ := htells.at_warning halarm
  obtain ⟨later, hlater, herrand⟩ := step_errand hworld hrunner move
  exact ⟨later, notes ++ asides, owner.passId, owner.passes, message, hlater,
    herrand ▸ hwarning, rfl⟩

section Runs

variable (coordinator : Coordinator) (resolve : Option (Path → Option Path)) (bus : EventBus)
variable (moves : List Move)

theorem errorsTold_run :
    let state := (World.new coordinator resolve bus).run moves
    ErrorsTold coordinator state.1 state.2 := by
  -- a run is continued at its end, so the induction is on the moves from last to first
  induction moves using List.reverseRecOn with
  | nil => exact fun past _ _ _ _ _ h => by simp [World.run] at h
  | append_singleton moves move ih =>
    obtain ⟨airspace, hshows, hbook, howes⟩ := logged_course coordinator resolve bus moves
      (fun _ hother => by cases hother)
      fun before _ _ _ _ hleg howes => Airspace.OwesByPolicy.leg howes hleg
    have hworld := timely_run coordinator resolve bus moves
    rw [run_snoc]
    exact errorsTold_step (run_coordinator _ moves) hworld hshows howes hbook ih move

theorem warningsTrue_run :
    let state := (World.new coordinator resolve bus).run moves
    WarningsTrue coordinator state.1 state.2 := by
  induction moves using List.reverseRecOn with
  | nil => exact fun past _ _ _ _ h => by simp [World.run] at h
  | append_singleton moves move ih =>
    obtain ⟨airspace, hshows, _⟩ := logged_run coordinator resolve bus moves
    have hworld := timely_run coordinator resolve bus moves
    rw [run_snoc]
    exact warningsTrue_step (run_coordinator _ moves) hworld hshows ih move

end Runs

end World

/-- In every run, the passes that are published as failed are those whose pull or push failed, with
their errors. If no request was deferred during the failed pass, its request is answered with the
error, and the task that made it warns of the same error at once, unless it is a caller. If one was
deferred, the policy is to coalesce and the next pass of the request begins instead. Every warning
tells of the failed pass with which the request of its task ended, so a failed pass that another one
follows is not warned of. -/
theorem failures_told (coordinator : Coordinator) (resolve : Option (Path → Option Path))
    (bus : EventBus) (moves : List Move) :
    let start := World.new coordinator resolve bus
    let state := start.run moves
    failedPasses state.2 = start.failures moves ∧ ErrorsTold coordinator state.1 state.2 ∧
      WarningsTrue coordinator state.1 state.2 :=
  ⟨World.failedPasses_run coordinator resolve bus moves,
    World.errorsTold_run coordinator resolve bus moves,
    World.warningsTrue_run coordinator resolve bus moves⟩

/-- A pass of a loop may fail without a warning of its error. -/
theorem failure_unwarned :
    ¬ ∀ (coordinator : Coordinator) resolve bus moves number task passId message,
      coordinator.config.validate = .ok () →
      let state := (World.new coordinator resolve bus).run moves
      state.1.tasks[number]? = some task → task.errand.isLoop = true → task.flight? = none →
      (∃ time, ⟨time, some number, .event (.failed passId message)⟩ ∈ state.2) →
      ∃ note ∈ state.2, ∃ record, note.act = .log record ∧ record.level = .warn ∧
        ("error", message) ∈ record.fields.entries := by
  intro h
  have hwarned := h .coalescing none (.new .standard)
    [.start (.loop false) false, .start .change false,
      .answer 0 (.pulled (.error (.connection "offline"))), .answer 0 (.pulled (.ok .noChanges)),
      .answer 0 (.pushed (.ok .noChanges))] 0 ⟨.loop false, false, .sleeping 1000⟩ 1
    "Pull phase failed: Connection error: offline"
    (by decide +kernel) (by decide +kernel) rfl rfl ⟨0, by decide +kernel⟩
  obtain ⟨note, hmem, record, hact, hlevel, -⟩ := hwarned
  have hquiet : (((World.new .coalescing none (.new .standard)).run
      [.start (.loop false) false, .start .change false,
        .answer 0 (.pulled (.error (.connection "offline"))),
        .answer 0 (.pulled (.ok .noChanges)), .answer 0 (.pushed (.ok .noChanges))]).2.all
      fun note => match note.act with
        | .log record => record.level ≠ .warn
        | _ => true) = true := by
    decide +kernel
  have hnever := List.all_eq_true.mp hquiet note hmem
  simp [hact, hlevel] at hnever

end ReplicaSync
