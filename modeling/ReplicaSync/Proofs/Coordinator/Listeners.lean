import ReplicaSync.Proofs.Coordinator.TaskView

/-!
# The listeners of a loop

Before its first request a loop subscribes and starts the watcher, as far as there are a channel and
a watcher, and waits for each to return. Main statement: `stretch_unheard`, that with each answer it
goes on to the next of them.
-/

namespace ReplicaSync

/-- The call that starts the watcher, if there is one. -/
def Coordinator.watcherCalls (coordinator : Coordinator) : List Call :=
  if coordinator.hasWatcher then
    [.watch coordinator.config.localDir coordinator.config.ignoredPaths]
  else []

/-- The calls by which a loop starts its listeners, in their order. -/
def Coordinator.listeners (coordinator : Coordinator) : List Call :=
  if coordinator.hasChannel then
    .subscribe coordinator.config.channelKey :: coordinator.watcherCalls
  else coordinator.watcherCalls

namespace Stage

/-- The listener that a task waits for. -/
def listener? (coordinator : Coordinator) : Stage → Option Call
  | .subscribing => some (.subscribe coordinator.config.channelKey)
  | .watching => some (.watch coordinator.config.localDir coordinator.config.ignoredPaths)
  | _ => none

/-- The listeners that a loop has still to hear from. -/
def unheard (coordinator : Coordinator) : Stage → List Call
  | .ready => coordinator.listeners
  | .subscribing => .subscribe coordinator.config.channelKey :: coordinator.watcherCalls
  | .watching => [.watch coordinator.config.localDir coordinator.config.ignoredPaths]
  | _ => []

theorem unheard_eq_nil {coordinator : Coordinator} {stage : Stage}
    (h : stage.isListening = false) : stage.unheard coordinator = [] := by
  cases stage with
  | ready | subscribing | watching => cases h
  | flying | sleeping | «over» => rfl

theorem listener?_eq_none {coordinator : Coordinator} {stage : Stage}
    (h : stage.isListening = false) : stage.listener? coordinator = none := by
  cases stage with
  | ready | subscribing | watching => cases h
  | flying | sleeping | «over» => rfl

end Stage

/-- The listener that an answer comes from, if the task waits for one, and what it returned. -/
def Task.heard (coordinator : Coordinator) (task : Task) :
    Answer → List (Call × Except AdapterError Unit)
  | .replied result => (task.stage.listener? coordinator).toList.map fun call => (call, result)
  | _ => []

/-- The listeners that return to a task in a move, with what they return. -/
def World.returnedBy (world : World) (number : Nat) : Move → List (Call × Except AdapterError Unit)
  | .answer other answer =>
    match world.tasks[number]? with
    | some task => if other = number then task.heard world.coordinator answer else []
    | none => []
  | _ => []

/-- The listeners that return to a task in a run, in their order. -/
def World.returned (world : World) (number : Nat) :
    List Move → List (Call × Except AdapterError Unit)
  | [] => []
  | move :: rest => world.returnedBy number move ++ (world.step move).1.returned number rest

theorem World.returned_snoc (world : World) (number : Nat) (moves : List Move) (move : Move) :
    world.returned number (moves ++ [move]) =
      world.returned number moves ++ (world.run moves).1.returnedBy number move := by
  induction moves generalizing world with
  | nil => simp [World.returned, World.run]
  | cons first rest ih =>
    rw [List.cons_append, World.returned, World.returned, ih, List.append_assoc]
    rfl

section Heard

variable {coordinator : Coordinator} {now : Nat} {task : Task} {acts : List Act}

theorem startWatcher_unheard (shared : Shared) (hacts : exchanges acts = [])
    (hloop : task.errand.isLoop = true) :
    (Task.startWatcher coordinator now shared task acts).task.stage.unheard coordinator =
      coordinator.watcherCalls := by
  unfold Task.startWatcher Coordinator.watcherCalls
  split
  · rfl
  · have hturns : (Task.enterLoop coordinator now shared task
        (acts ++ [Task.note .debug "No file watcher configured" []])).Turns coordinator now task :=
      enterLoop_turns shared (by simp [hacts]) hloop
    exact Stage.unheard_eq_nil hturns.turns.isListening

theorem start_unheard (shared : Shared) (forever cancelled : Bool) :
    (Task.start coordinator now shared (.loop forever) cancelled).task.stage.unheard coordinator =
      coordinator.listeners := by
  unfold Task.start Coordinator.listeners
  simp only
  split
  · rfl
  · exact startWatcher_unheard shared rfl rfl

theorem resume_unheard (shared : Shared) (answer : Answer) (hloop : task.errand.isLoop = true) :
    (task.heard coordinator answer).map Prod.fst ++
        (task.resume coordinator now shared answer).task.stage.unheard coordinator =
      task.stage.unheard coordinator := by
  cases hlistens : task.stage.isListening with
  | false =>
    have hrounds : (task.resume coordinator now shared answer).Rounds coordinator now task :=
      resume_rounds shared answer fun _ => hloop
    rw [Stage.unheard_eq_nil hlistens, Stage.unheard_eq_nil (hrounds.round.isListening hlistens)]
    cases answer with
    | replied result => simp [Task.heard, Stage.listener?_eq_none hlistens]
    | pulled | pushed => rfl
  | true =>
    cases hstage : task.stage with
    | flying | sleeping | «over» =>
      rw [hstage] at hlistens
      cases hlistens
    | ready => cases answer with
      | replied | pulled | pushed => simp [Task.heard, Task.resume, hstage, Stage.listener?]
    | subscribing =>
      cases answer with
      | replied result =>
        have hresume : task.resume coordinator now shared (.replied result) =
            Task.startWatcher coordinator now shared task
              (Task.subscribed coordinator.config.channelKey result) := by
          rw [Task.resume, hstage]
        rw [hresume, startWatcher_unheard shared (exchanges_subscribed _ result) hloop]
        simp [Task.heard, hstage, Stage.listener?, Stage.unheard]
      | pulled | pushed => simp [Task.heard, Task.resume, hstage]
    | watching =>
      cases answer with
      | replied result =>
        have hresume : task.resume coordinator now shared (.replied result) =
            Task.enterLoop coordinator now shared task
              (Task.watcherStarted coordinator.config.localDir result) := by
          rw [Task.resume, hstage]
        have hturns : (Task.enterLoop coordinator now shared task (Task.watcherStarted
            coordinator.config.localDir result)).Turns coordinator now task :=
          enterLoop_turns shared (exchanges_watcherStarted _ result) hloop
        rw [hresume, Stage.unheard_eq_nil hturns.turns.isListening]
        simp [Task.heard, hstage, Stage.listener?, Stage.unheard]
      | pulled | pushed => simp [Task.heard, Task.resume, hstage]

theorem wake_unheard (shared : Shared) (hloop : task.errand.isLoop = true) :
    (task.wake coordinator now shared).task.stage.unheard coordinator =
      task.stage.unheard coordinator := by
  unfold Task.wake
  split
  · rename_i wakeAt hstage
    split
    · have hturns : (Task.turn coordinator now shared task []).Turns coordinator now task :=
        turn_turns shared rfl hloop
      rw [Stage.unheard_eq_nil hturns.turns.isListening, hstage]
      rfl
    · rfl
  · rfl

theorem TaskStep.Cancels.unheard {step : TaskStep} (h : step.Cancels task) :
    step.task.stage.unheard coordinator = task.stage.unheard coordinator := by
  rcases h.stage with ⟨hsame, _⟩ | ⟨_, hover, wakeAt, hstage⟩
  · rw [hsame]
  · rw [hover, hstage]
    rfl

/-- In a move a loop hears from the first of the listeners that it has still to hear from, or it
waits on, unless it is lost. -/
theorem World.stretch_unheard {world : World} {number : Nat}
    (htask : world.tasks[number]? = some task) (hloop : task.errand.isLoop = true) {move : Move}
    (hkept : ∀ ending, move.loss? ≠ some (number, ending)) :
    (world.returnedBy number move).map Prod.fst ++
        (world.stretch move number task).task.stage.unheard world.coordinator =
      task.stage.unheard world.coordinator := by
  cases move with
  | answer other answer =>
    simp only [World.returnedBy, World.stretch, World.told, htask]
    split
    · exact resume_unheard world.shared answer hloop
    · rfl
  | wake other =>
    simp only [World.stretch, World.told]
    split
    · exact wake_unheard world.shared hloop
    · rfl
  | cancel other =>
    simp only [World.stretch, World.told]
    split
    · exact (cancel_cancels world.shared task).unheard
    · rfl
  | panic other | drop other =>
    simp only [World.stretch, World.told]
    split
    · rename_i hother
      subst hother
      exact (hkept _ rfl).elim
    · rfl
  | _ => rfl

end Heard

end ReplicaSync
