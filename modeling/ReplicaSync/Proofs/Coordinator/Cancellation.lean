import ReplicaSync.Proofs.Coordinator.Shutdown
import ReplicaSync.Proofs.Coordinator.WindingDown

/-!
# Cancellations

A loop that is cancelled in its sleep stops at once. Any other one goes on as if it had not been
cancelled until it would make a request or is answered: a request that it has made runs to its end,
and with the answer the loop stops. The proof compares the run with the one in which the loop was
not cancelled. Main statement: `cancellation_prompt`.
-/

namespace ReplicaSync

/-- The task with its cancellation requested. -/
def Task.marked (task : Task) : Task := { task with cancelled := true }

theorem Task.marked_eq {task : Task} (h : task.cancelled = true) : task.marked = task := by
  obtain ⟨errand, cancelled, stage⟩ := task
  cases h
  rfl

/-! ### Loops that are awake -/

/-- A task that is not cancelled makes a request when it turns to the next one. -/
theorem Turn.ne_nil {coordinator : Coordinator} {now : Nat} {errand : Errand} {acts : List Act}
    {after : Stage} (h : Turn coordinator now errand false acts after) : acts ≠ [] := by
  cases h with
  | stops _ hcancelled => cases hcancelled
  | enters | refused => exact List.cons_ne_nil _ _

/-- Without a request or an answer a loop that is awake does not fall asleep. -/
theorem Round.awake_of_quiet {coordinator : Coordinator} {now : Nat} {errand : Errand}
    {cancelled : Bool} {before after : Stage} {acts : List Act}
    (h : Round coordinator now errand cancelled before acts after) (hquiet : acts = [])
    (hawake : ∀ wakeAt, before ≠ .sleeping wakeAt) (wakeAt : Nat) : after ≠ .sleeping wakeAt := by
  rintro rfl
  cases h with
  | waits => exact hawake wakeAt rfl
  | listens _ _ _ _ hafter => cases hafter
  | turns _ _ _ _ hturn =>
    subst hquiet
    cases hturn
  | answered => cases hquiet

theorem TaskStep.Turns.asks {step : TaskStep} {coordinator : Coordinator} {now : Nat} {task : Task}
    (h : step.Turns coordinator now task) (hcancelled : task.cancelled = false) :
    exchanges step.acts ≠ [] := by
  have hturn := h.turns
  rw [hcancelled] at hturn
  exact hturn.ne_nil

/-- The other stretch is the same, of a task that was cancelled. -/
def TaskStep.Marks (step other : TaskStep) : Prop :=
  other = { step with task := step.task.marked }

theorem TaskStep.Marks.concurs {step other : TaskStep} (h : step.Marks other) :
    World.Concurs step other := by
  rw [h]
  exact ⟨rfl, fun _ => rfl⟩

section Awake

variable {coordinator : Coordinator} {now : Nat} {task : Task} {acts : List Act}

theorem startWatcher_marks (shared : Shared) (hacts : exchanges acts = [])
    (hloop : task.errand.isLoop = true) (hcancelled : task.cancelled = false)
    (hquiet : exchanges (task.startWatcher coordinator now shared acts).acts = []) :
    (task.startWatcher coordinator now shared acts).Marks
      (task.marked.startWatcher coordinator now shared acts) := by
  unfold Task.startWatcher at hquiet ⊢
  split at hquiet
  · rename_i hwatcher
    simp only [if_pos hwatcher]
    rfl
  · exact absurd hquiet ((enterLoop_turns shared (by simp [hacts]) hloop).asks hcancelled)

theorem ofRequest_marks {step : RequestStep} (hstep : step.Exchanges [])
    (hquiet : exchanges (task.ofRequest coordinator now [] step).acts = []) :
    (task.ofRequest coordinator now [] step).Marks
      (task.marked.ofRequest coordinator now [] step) := by
  unfold Task.ofRequest at hquiet ⊢
  unfold RequestStep.Exchanges at hstep
  cases hstate : step.state with
  | flying next => rfl
  | settled outcome =>
    rw [hstate] at hstep hquiet
    obtain ⟨_, _, hacts, _⟩ := afterRequest_rests coordinator now step.shared task outcome
      ([] ++ step.acts)
    rw [hacts, List.nil_append, hstep] at hquiet
    cases hquiet

theorem resume_marks (shared : Shared) (answer : Answer) (hloop : task.errand.isLoop = true)
    (hcancelled : task.cancelled = false)
    (hquiet : exchanges (task.resume coordinator now shared answer).acts = []) :
    (task.resume coordinator now shared answer).Marks
      (task.marked.resume coordinator now shared answer) := by
  have hstage : task.marked.stage = task.stage := rfl
  unfold Task.resume at hquiet ⊢
  rw [hstage]
  cases hcase : task.stage with
  | subscribing =>
    rw [hcase] at hquiet
    cases answer with
    | replied result =>
      exact startWatcher_marks shared (exchanges_subscribed _ result) hloop hcancelled hquiet
    | pulled | pushed => rfl
  | watching =>
    rw [hcase] at hquiet
    cases answer with
    | replied result =>
      exact absurd hquiet ((enterLoop_turns shared (exchanges_watcherStarted _ result) hloop).asks
        hcancelled)
    | pulled | pushed => rfl
  | flying flight =>
    rw [hcase] at hquiet
    exact ofRequest_marks (flight_resume_exchanges coordinator shared flight answer) hquiet
  | ready | sleeping | «over» => rfl

theorem abandon_marks (shared : Shared) (task : Task) (ending : Ending) :
    (task.abandon shared ending).Marks (task.marked.abandon shared ending) := by
  have hstage : task.marked.stage = task.stage := rfl
  unfold Task.abandon
  rw [hstage]
  split <;> rfl

theorem cancel_marks (shared : Shared) (hawake : ∀ wakeAt, task.stage ≠ .sleeping wakeAt) :
    (task.cancel shared).Marks (task.marked.cancel shared) := by
  have hstage : task.marked.stage = task.stage := rfl
  have herrand : task.marked.errand = task.errand := rfl
  unfold Task.cancel
  rw [hstage, herrand]
  split
  · rename_i wakeAt _ hsleeps
    exact (hawake wakeAt hsleeps).elim
  · rfl
  · rfl
  · rfl

theorem wake_marks (shared : Shared) (hawake : ∀ wakeAt, task.stage ≠ .sleeping wakeAt) :
    (task.wake coordinator now shared).Marks (task.marked.wake coordinator now shared) := by
  have hstage : task.marked.stage = task.stage := rfl
  unfold Task.wake
  rw [hstage]
  split
  · rename_i wakeAt hsleeps
    exact (hawake wakeAt hsleeps).elim
  · rfl

end Awake

namespace World

variable {world : World} {number : Nat} {task : Task}

/-- A loop that is awake takes no notice of a cancellation before its next request or answer. -/
theorem stretch_marks (world : World) (number : Nat) (hloop : task.errand.isLoop = true)
    (hcancelled : task.cancelled = false) (hawake : ∀ wakeAt, task.stage ≠ .sleeping wakeAt)
    (move : Move) (hquiet : exchanges (world.stretch move number task).acts = []) :
    (world.stretch move number task).Marks (world.stretch move number task.marked) := by
  revert hquiet
  apply stretch_rel (R := fun step other => exchanges step.acts = [] → step.Marks other)
  · exact fun _ => rfl
  · exact fun reply _ => resume_marks world.shared reply hloop hcancelled
  · exact fun _ _ => wake_marks world.shared hawake
  · exact fun ending _ _ => abandon_marks world.shared task ending
  · exact fun _ _ => cancel_marks world.shared hawake

theorem stretch_awake (world : World) (number : Nat) (hloop : task.errand.isLoop = true)
    (hawake : ∀ wakeAt, task.stage ≠ .sleeping wakeAt) (move : Move)
    (hquiet : exchanges (world.stretch move number task).acts = []) (wakeAt : Nat) :
    (world.stretch move number task).task.stage ≠ .sleeping wakeAt := by
  rcases world.stretch_cases number (fun _ => hloop) move with hround | ⟨ending, hloss⟩ |
    ⟨_, hcancel⟩
  · exact hround.round.awake_of_quiet hquiet hawake wakeAt
  · rcases (stretch_loses task hloss).stage with hover | ⟨hsame, _⟩
    · rw [hover]
      exact Stage.noConfusion
    · rw [hsame]
      exact hawake wakeAt
  · rcases hcancel.stage with ⟨hsame, _⟩ | ⟨_, hover, _⟩
    · rw [hsame]
      exact hawake wakeAt
    · rw [hover]
      exact Stage.noConfusion

theorem Replaces.eq {time : Nat} {step other : TaskStep} {result replaced : World × List Note}
    (h : Replaces time number step other result replaced) (hacts : other.acts = step.acts) :
    replaced = (result.1.withTask number other.task, result.2) := by
  obtain ⟨before, hnotes, hothers⟩ := h.notes
  refine Prod.ext h.world ?_
  rw [hothers, hacts, ← hnotes]

theorem step_withMarked (htask : world.tasks[number]? = some task) (move : Move)
    (h : Concurs (world.stretch move number task) (world.stretch move number task.marked)) :
    Replaces world.now number (world.stretch move number task)
      (world.stretch move number task.marked) (world.step move)
      ((world.withTask number task.marked).step move) := by
  have hwakes : task.marked.wakeAt? = task.wakeAt? := rfl
  have hwatching : task.marked.stage = .watching ↔ task.stage = .watching := Iff.rfl
  exact step_withTask htask hwatching move (fun ms _ => clockAfter_alike htask hwakes ms) h

theorem stretch_quiet (htask : world.tasks[number]? = some task) {move : Move}
    (h : exchangesOf number (world.step move).2 = []) :
    exchanges (world.stretch move number task).acts = [] := by
  rw [(step_task htask move).2] at h
  exact List.map_eq_nil_iff.mp h

theorem step_marked (htask : world.tasks[number]? = some task)
    (hloop : task.errand.isLoop = true) (hawake : ∀ wakeAt, task.stage ≠ .sleeping wakeAt)
    (move : Move) (hquiet : exchangesOf number (world.step move).2 = []) :
    (world.withTask number task.marked).step move =
      ((world.step move).1.withTask number (world.stretch move number task).task.marked,
        (world.step move).2) := by
  cases hcancelled : task.cancelled with
  | true =>
    -- there is nothing to mark
    have hstill := world.stretch_cancelled number hloop hcancelled move
    rw [Task.marked_eq hcancelled, withTask_self htask, Task.marked_eq hstill,
      withTask_self (step_task htask move).1]
  | false =>
    have hmarks := world.stretch_marks number hloop hcancelled hawake move
      (stretch_quiet htask hquiet)
    have hreplaces := step_withMarked htask move hmarks.concurs
    rw [hreplaces.eq (by rw [hmarks]), hmarks]

theorem run_marked (htask : world.tasks[number]? = some task)
    (hloop : task.errand.isLoop = true) (hawake : ∀ wakeAt, task.stage ≠ .sleeping wakeAt)
    (moves : List Move) (hquiet : exchangesOf number (world.run moves).2 = []) :
    ∃ last, (world.run moves).1.tasks[number]? = some last ∧ last.errand.isLoop = true ∧
      (∀ wakeAt, last.stage ≠ .sleeping wakeAt) ∧
      (task.stage.isListening = false → last.stage.isListening = false) ∧
      (world.withTask number task.marked).run moves =
        ((world.run moves).1.withTask number last.marked, (world.run moves).2) := by
  induction moves generalizing world task with
  | nil => exact ⟨task, htask, hloop, hawake, id, rfl⟩
  | cons move rest ih =>
    rw [run_cons, exchangesOf_append, List.append_eq_nil_iff] at hquiet
    obtain ⟨hfirst, hrest⟩ := hquiet
    obtain ⟨last, hlast, hstill, hup, hheard, hrun⟩ := ih (step_task htask move).1
      (world.stretch_isLoop number hloop move)
      (world.stretch_awake number hloop hawake move (stretch_quiet htask hfirst)) hrest
    refine ⟨last, hlast, hstill, hup, fun hbefore => hheard ?_, ?_⟩
    · exact world.stretch_isListening number (fun _ => hloop) hbefore move
    · rw [run_cons, run_cons, step_marked htask hloop hawake move hfirst, hrun]

end World

/-! ### Loops that wait for an answer -/

section Flying

variable {coordinator : Coordinator} {now : Nat} {task : Task} {acts : List Act}

theorem publish_append (bus : EventBus) (a b : List Act) :
    World.publish bus (a ++ b) = World.publish (World.publish bus a) b :=
  List.foldl_append

theorem publish_loopRecord (bus : EventBus) (config : WatchConfig) (outcome : RequestOutcome) :
    World.publish bus [Task.loopRecord config outcome] = bus := by
  unfold Task.loopRecord
  split <;> rfl

/-- What a loop does with the answer to its request is of no account to others. -/
theorem afterRequest_published (shared : Shared) (hloop : task.errand.isLoop = true)
    (outcome : RequestOutcome) (acts : List Act) (bus : EventBus) :
    World.publish bus (task.afterRequest coordinator now shared outcome acts).acts =
      World.publish bus acts := by
  unfold Task.afterRequest
  cases herrand : task.errand with
  | request | change | message =>
    rw [herrand] at hloop
    cases hloop
  | «loop» forever =>
    simp only
    split
    · rw [Task.stop_eq, publish_append, publish_append, publish_loopRecord]
      rfl
    · rw [publish_append, publish_append, publish_loopRecord]
      rfl

/-- The stretches show the same signals and leave the same to everybody else. -/
structure TaskStep.Mimics (step other : TaskStep) : Prop where
  concurs : World.Concurs step other
  signals : signals other.acts = signals step.acts

theorem TaskStep.Marks.mimics {step other : TaskStep} (h : step.Marks other) :
    step.Mimics other := by
  refine ⟨h.concurs, ?_⟩
  rw [h]

theorem ofRequest_mimics (hloop : task.errand.isLoop = true) (step : RequestStep) :
    (task.ofRequest coordinator now [] step).Mimics
      (task.marked.ofRequest coordinator now [] step) := by
  unfold Task.ofRequest
  cases step.state with
  | flying next => exact ⟨⟨rfl, fun _ => rfl⟩, rfl⟩
  | settled outcome =>
    have hmarked : task.marked.errand.isLoop = true := hloop
    simp only
    refine ⟨⟨?_, fun bus => ?_⟩, ?_⟩
    · rw [afterRequest_shared, afterRequest_shared]
    · rw [afterRequest_published step.shared hloop, afterRequest_published step.shared hmarked]
    · rw [signals_afterRequest, signals_afterRequest]

theorem resume_mimics (shared : Shared) (answer : Answer) (hloop : task.errand.isLoop = true)
    (hlistens : task.stage.isListening = false) :
    (task.resume coordinator now shared answer).Mimics
      (task.marked.resume coordinator now shared answer) := by
  have hstage : task.marked.stage = task.stage := rfl
  unfold Task.resume
  rw [hstage]
  cases hcase : task.stage with
  | ready | subscribing | watching =>
    rw [hcase] at hlistens
    cases hlistens
  | flying flight => exact ofRequest_mimics hloop _
  | sleeping | «over» => exact ⟨⟨rfl, fun _ => rfl⟩, rfl⟩

end Flying

namespace World

variable {world : World} {number : Nat} {task : Task}

theorem stretch_mimics (world : World) (number : Nat) (hloop : task.errand.isLoop = true)
    (hlistens : task.stage.isListening = false) (hawake : ∀ wakeAt, task.stage ≠ .sleeping wakeAt)
    (move : Move) :
    (world.stretch move number task).Mimics (world.stretch move number task.marked) := by
  apply stretch_rel (R := TaskStep.Mimics)
  · exact ⟨⟨rfl, fun _ => rfl⟩, rfl⟩
  · exact fun reply _ => resume_mimics world.shared reply hloop hlistens
  · exact fun _ => (wake_marks world.shared hawake).mimics
  · exact fun ending _ => (abandon_marks world.shared task ending).mimics
  · exact fun _ => (cancel_marks world.shared hawake).mimics

/-- With the answer to its request a cancelled loop does for others what it would have done. -/
theorem step_mimics (htask : world.tasks[number]? = some task)
    (hloop : task.errand.isLoop = true) (hlistens : task.stage.isListening = false)
    (hawake : ∀ wakeAt, task.stage ≠ .sleeping wakeAt) (move : Move) :
    ((world.withTask number task.marked).step move).1 =
        (world.step move).1.withTask number (world.stretch move number task.marked).task ∧
      Note.signals ((world.withTask number task.marked).step move).2 =
        Note.signals (world.step move).2 := by
  have hmimics := world.stretch_mimics number hloop hlistens hawake move
  have hreplaces := step_withMarked htask move hmimics.concurs
  obtain ⟨before, hnotes, hothers⟩ := hreplaces.notes
  refine ⟨hreplaces.world, ?_⟩
  rw [hnotes, hothers, Note.signals_append, Note.signals_append, Note.signals_ofActs,
    Note.signals_ofActs, hmimics.signals]

/-! ### Loops that sleep -/

/-- Nobody cancels the loop in these moves or has its task go away. -/
def Spares (number : Nat) (moves : List Move) : Prop :=
  ∀ move ∈ moves, move ≠ .cancel number ∧ ∀ ending, move.loss? ≠ some (number, ending)

/-- Until it is woken a loop that sleeps does no more than one that is over. -/
theorem stretch_still {wakeAt : Nat} {other : Task} {ending : Ending}
    (hsleeps : task.stage = .sleeping wakeAt) (hnow : world.now < wakeAt)
    (hover : other.stage = .over ending) {move : Move} (hcancel : move ≠ .cancel number)
    (hloss : ∀ ending, move.loss? ≠ some (number, ending)) :
    world.stretch move number task = ⟨world.shared, task, []⟩ ∧
      world.stretch move number other = ⟨world.shared, other, []⟩ := by
  apply stretch_rel (R := fun step last =>
    step = ⟨world.shared, task, []⟩ ∧ last = ⟨world.shared, other, []⟩)
  · exact ⟨rfl, rfl⟩
  · intro reply _
    simp only [Task.resume, hsleeps, hover, and_self]
  · intro _
    simp only [Task.wake, hsleeps, hover, if_neg (Nat.not_le_of_lt hnow), and_self]
  · exact fun ending hlost => (hloss ending hlost).elim
  · exact fun hcancelled => (hcancel hcancelled).elim

/-- Before it is woken a loop that sleeps may as well be over. -/
theorem run_asleep {wakeAt : Nat} {other : Task} {ending : Ending}
    (htask : world.tasks[number]? = some task) (hsleeps : task.stage = .sleeping wakeAt)
    (hover : other.stage = .over ending) {moves : List Move} (hspares : Spares number moves)
    (hnow : (world.run moves).1.now < wakeAt) :
    (world.withTask number other).run moves =
      ((world.run moves).1.withTask number other, (world.run moves).2) := by
  induction moves generalizing world with
  | nil => rfl
  | cons move rest ih =>
    obtain ⟨⟨hcancel, hloss⟩, hrest⟩ := List.forall_mem_cons.mp hspares
    -- the clock never goes back, so the loop is not woken in this move either
    have hnext : (world.step move).1.now < wakeAt :=
      Nat.lt_of_le_of_lt (now_le_run (world.step move).1 rest) hnow
    have hbefore : world.now < wakeAt := Nat.lt_of_le_of_lt (now_le_step world move) hnext
    obtain ⟨hstill, hgone⟩ := stretch_still hsleeps hbefore hover hcancel hloss
    have hwatching : other.stage = .watching ↔ task.stage = .watching := by
      rw [hover, hsleeps]
      exact ⟨Stage.noConfusion, Stage.noConfusion⟩
    have hclock : ∀ ms, move = .elapse ms →
        (world.withTask number other).clockAfter ms = world.clockAfter ms := by
      rintro ms rfl
      exact clockAfter_awake htask (by simp [Task.wakeAt?, hsleeps]) (by simp [Task.wakeAt?, hover])
        hnext
    have hreplaces := step_withTask htask hwatching move hclock
      (by rw [hstill, hgone]; exact ⟨rfl, fun _ => rfl⟩)
    have hafter : (world.step move).1.tasks[number]? = some task := by
      rw [(step_task htask move).1, hstill]
    rw [run_cons, run_cons, hreplaces.eq (by rw [hstill, hgone]), hgone, ih hafter hrest hnow]

/-- A loop that is cancelled in its sleep stops at once. -/
theorem cancel_asleep (htask : world.tasks[number]? = some task)
    (herrand : task.errand = .loop false) {wakeAt : Nat} (hsleeps : task.stage = .sleeping wakeAt) :
    world.step (.cancel number) =
      (world.withTask number ⟨.loop false, true, .over .stopped⟩,
        Note.ofActs world.now number Task.farewell) := by
  have hcancel : task.cancel world.shared =
      ⟨world.shared, ⟨.loop false, true, .over .stopped⟩, Task.farewell⟩ := by
    simp only [Task.cancel, herrand, hsleeps, Task.stop_eq, List.nil_append]
  show world.act number (·.cancel world.shared) = _
  unfold World.act
  simp only [htask, hcancel]
  rfl

/-- What the cancellation of a loop does, wherever the loop stands. -/
structure StopsPromptly (world : World) (number : Nat) (task : Task) : Prop where
  /-- From the cancellation on it makes no request. -/
  noRequest : ∀ more time trigger,
    ⟨time, some number, .request trigger⟩ ∉ (world.run (.cancel number :: more)).2
  /-- A loop that sleeps stops at that moment and is not heard of again, even if it is to be woken
  at the same moment; as long as it would have slept everything else is as it would have been. -/
  asleep : ∀ wakeAt, task.stage = .sleeping wakeAt → ∀ more,
    (∃ rest, (world.run (.cancel number :: more)).2 =
        Note.ofActs world.now number Task.farewell ++ rest ∧
      ∀ note ∈ rest, note.task ≠ some number) ∧
    (Spares number more → (world.run more).1.now < wakeAt →
      world.run (.cancel number :: more) =
        ((world.run more).1.withTask number ⟨.loop false, true, .over .stopped⟩,
          Note.ofActs world.now number Task.farewell ++ (world.run more).2))
  /-- Any other loop goes on, and until its next request or answer everything is as it would have
  been: the listeners, its own passes and those of others. -/
  awake : (∀ wakeAt, task.stage ≠ .sleeping wakeAt) → (∀ ending, task.stage ≠ .over ending) →
    ∀ more, exchangesOf number (world.run more).2 = [] →
      ∃ last, (world.run more).1.tasks[number]? = some last ∧
        world.run (.cancel number :: more) =
          ((world.run more).1.withTask number last.marked, (world.run more).2)
  /-- A request that the loop has made is served as it would have been: no call is missing and no
  event, the answer is the same and comes in the same move, and so does what it leaves behind. -/
  flying : ∀ flight, task.stage = .flying flight →
    ∀ more move, exchangesOf number (world.run more).2 = [] →
      ∃ last,
        (world.run (.cancel number :: (more ++ [move]))).1 =
          (world.run (more ++ [move])).1.withTask number last ∧
        Note.signals (world.run (.cancel number :: (more ++ [move]))).2 =
          Note.signals (world.run (more ++ [move])).2
  /-- With the answer, and at the same moment, the loop stops. -/
  returns : ∀ more past time outcome after,
    (world.run (.cancel number :: more)).2 =
      past ++ ⟨time, some number, .settle outcome⟩ :: after →
    ∃ rest, after = Note.ofActs time number
        (Task.loopRecord world.coordinator.config outcome :: Task.farewell) ++ rest ∧
      ∀ note ∈ rest, note.task ≠ some number

/-- After its cancellation a loop is over or keeps it in mind. -/
theorem cancel_loop (htask : world.tasks[number]? = some task)
    (herrand : task.errand = .loop false) :
    exchangesOf number (world.step (.cancel number)).2 = [] ∧
      ((world.step (.cancel number)).1.IsOver number ∨
        (world.step (.cancel number)).1.IsCancelled number) := by
  have hlt : number < world.tasks.length := (List.getElem?_eq_some_iff.mp htask).1
  cases hstage : task.stage with
  | sleeping wakeAt =>
    rw [cancel_asleep htask herrand hstage]
    refine ⟨?_, .inl ⟨_, .stopped, withTask_task? hlt _, rfl⟩⟩
    rw [exchangesOf_ofActs, exchanges_farewell]
    rfl
  | «over» ending =>
    have hover : world.IsOver number := ⟨task, ending, htask, hstage⟩
    exact ⟨(hover.step (.cancel number)).2, .inl (hover.step (.cancel number)).1⟩
  | ready | subscribing | watching | flying =>
    rw [cancel_awake htask herrand (by simp [hstage]) (by simp [hstage])]
    exact ⟨rfl, .inr ⟨task.marked, withTask_task? hlt _, congrArg Errand.isLoop herrand, rfl⟩⟩

theorem cancel_noRequest (htask : world.tasks[number]? = some task)
    (herrand : task.errand = .loop false) (more : List Move) (time : Nat) (trigger : Trigger) :
    ⟨time, some number, .request trigger⟩ ∉ (world.run (.cancel number :: more)).2 := by
  obtain ⟨hquiet, hafter⟩ := cancel_loop htask herrand
  rw [run_cons]
  intro hmem
  rcases List.mem_append.mp hmem with hfirst | hrest
  · exact exchange_notMem hquiet rfl time hfirst
  · rcases hafter with hover | hcancelled
    · exact hover.silent_run more _ hrest rfl
    · exact hcancelled.noRequest more time trigger hrest

theorem cancel_returns (htask : world.tasks[number]? = some task)
    (herrand : task.errand = .loop false) {more : List Move} {past after : List Note} {time : Nat}
    {outcome : RequestOutcome}
    (hsplit : (world.run (.cancel number :: more)).2 =
      past ++ ⟨time, some number, .settle outcome⟩ :: after) :
    ∃ rest, after = Note.ofActs time number
        (Task.loopRecord world.coordinator.config outcome :: Task.farewell) ++ rest ∧
      ∀ note ∈ rest, note.task ≠ some number := by
  obtain ⟨hquiet, hafter⟩ := cancel_loop htask herrand
  rw [run_cons] at hsplit
  rcases append_eq_split hsplit with ⟨tail, hfirst, _⟩ | ⟨middle, hrest, _⟩
  · refine (@exchange_notMem number (.settle outcome) _ hquiet rfl time ?_).elim
    rw [hfirst]
    simp
  · rcases hafter with hover | hcancelled
    · refine (hover.silent_run more ⟨time, some number, .settle outcome⟩ ?_ rfl).elim
      rw [hrest]
      simp
    · have hstops := hcancelled.returns more hrest
      rw [step_coordinator] at hstops
      exact hstops

theorem stopsPromptly (htask : world.tasks[number]? = some task)
    (herrand : task.errand = .loop false) : world.StopsPromptly number task where
  noRequest := cancel_noRequest htask herrand
  asleep := by
    intro wakeAt hsleeps more
    have hlt : number < world.tasks.length := (List.getElem?_eq_some_iff.mp htask).1
    have hover : (world.withTask number ⟨.loop false, true, .over .stopped⟩).IsOver number :=
      ⟨_, .stopped, withTask_task? hlt _, rfl⟩
    rw [run_cons, cancel_asleep htask herrand hsleeps]
    refine ⟨⟨_, rfl, hover.silent_run more⟩, fun hspares hnow => ?_⟩
    have hstopped : (⟨.loop false, true, .over .stopped⟩ : Task).stage = .over .stopped := rfl
    rw [run_asleep htask hsleeps hstopped hspares hnow]
  awake := by
    intro hawake hlives more hquiet
    have hloop : task.errand.isLoop = true := congrArg Errand.isLoop herrand
    obtain ⟨last, hlast, _, _, _, hrun⟩ := run_marked htask hloop hawake more hquiet
    refine ⟨last, hlast, ?_⟩
    rw [run_cons, cancel_awake htask herrand hawake hlives]
    exact hrun
  flying := by
    intro flight hflies more move hquiet
    have hloop : task.errand.isLoop = true := congrArg Errand.isLoop herrand
    have hawake : ∀ wakeAt, task.stage ≠ .sleeping wakeAt := by simp [hflies]
    obtain ⟨last, hlast, hstill, hup, hheard, hrun⟩ := run_marked htask hloop hawake more hquiet
    have hlistens : task.stage.isListening = false := by
      rw [hflies]
      rfl
    obtain ⟨hworld, hsignals⟩ := step_mimics hlast hstill (hheard hlistens) hup move
    refine ⟨((world.run more).1.stretch move number last.marked).task, ?_, ?_⟩
    · rw [run_cons, cancel_awake htask herrand hawake (by simp [hflies])]
      show ((world.withTask number task.marked).run (more ++ [move])).1 = _
      rw [run_snoc, run_snoc, hrun]
      exact hworld
    · rw [run_cons, cancel_awake htask herrand hawake (by simp [hflies])]
      show Note.signals ((world.withTask number task.marked).run (more ++ [move])).2 = _
      rw [run_snoc, run_snoc, hrun, Note.signals_append, Note.signals_append]
      exact congrArg _ hsignals
  returns := fun _ _ _ _ _ hsplit => cancel_returns htask herrand hsplit

end World

/-- In every run and whenever a loop is cancelled: it makes no request from then on. If it sleeps it
stops at that moment; otherwise the listeners that it starts and the request that it has made are
served as if it had not been cancelled, and with the answer to the request it stops. Everybody else
goes on as before. A loop that is cancelled before it begins makes no request either. -/
theorem cancellation_prompt (coordinator : Coordinator) (resolve : Option (Path → Option Path))
    (bus : EventBus) (moves : List Move) :
    let world := ((World.new coordinator resolve bus).run moves).1
    (∀ number task, world.tasks[number]? = some task → task.errand = .loop false →
      world.StopsPromptly number task) ∧
    ∀ more time trigger, ⟨time, some world.tasks.length, .request trigger⟩ ∉
      (world.run (.start (.loop false) true :: more)).2 := by
  intro world
  refine ⟨fun number task htask herrand => World.stopsPromptly htask herrand, ?_⟩
  intro more time trigger hmem
  rw [World.run_cons] at hmem
  rcases List.mem_append.mp hmem with hfirst | hrest
  · have hexchange := mem_exchangesOf hfirst rfl
    have hbegins := (world.begin_new (.loop false) true).2
    simp only [World.step, hbegins] at hexchange
    have hwinds : (Task.start world.coordinator world.now world.shared (.loop false)
        true).WindsDown world.coordinator.config := start_windsDown world.shared false
    exact hwinds.noRequest trigger (Note.mem_ofActs.mp hexchange).2.2
  · exact (world.start_cancelled false).noRequest more time trigger hrest

/-- A loop is cancelled at the moment at which it is to be woken. -/
theorem cancellation_prompt_asleep :
    let world := ((World.new (.withInterval (.ofMillis 1000)) none (.new .standard)).run
      ((twoRounds 1000).take 4)).1
    world.now = 1000 ∧ ∃ rest, (world.run [.cancel 0, .wake 0, .elapse 1000, .wake 0]).2 =
      Note.ofActs 1000 0 Task.farewell ++ rest ∧ ∀ note ∈ rest, note.task ≠ some 0 := by
  intro world
  have htask : world.tasks[0]? = some ⟨.loop false, false, .sleeping 1000⟩ := by decide +kernel
  have hstops := (cancellation_prompt (.withInterval (.ofMillis 1000)) none (.new .standard)
    ((twoRounds 1000).take 4)).1 0 _ htask rfl
  have hnow : world.now = 1000 := by decide +kernel
  have hasleep := (hstops.asleep 1000 rfl [.wake 0, .elapse 1000, .wake 0]).1
  rw [hnow] at hasleep
  exact ⟨hnow, hasleep⟩

end ReplicaSync
