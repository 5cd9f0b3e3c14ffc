import ReplicaSync.Proofs.Coordinator.Announcing

/-!
# Observers

Who listens to the bus, and when, and whether the channel takes the announcements, changes nothing
in what a coordinator does: two runs of one script agree in everything but the events and records
that tell what became of an announcement. Main statements: `World.script_moments`, that a run looks
like its script, and `observers_without_influence`.
-/

namespace ReplicaSync

/-! ### Moments -/

/-- What there is to see of a move: the clock, what the tasks share and the tasks after it, and
what was done in it. -/
structure Moment where
  now : Nat
  shared : Shared
  tasks : List Task
  notes : List Note
  deriving DecidableEq

/-- The moments of a run at which one looks. -/
def World.moments (counts : World → Move → Bool) (world : World) : List Move → List Moment
  | [] => []
  | move :: rest =>
    let (next, notes) := world.step move
    let later := next.moments counts rest
    if counts world move then ⟨next.now, next.shared, next.tasks, notes⟩ :: later else later

/-- The act tells what became of an announcement. -/
def Act.isEcho : Act → Bool
  | .publish (.sync (.announced _)) => true
  | .log record => record.target = "core_sync::announcer"
  | _ => false

def withoutEchoes (acts : List Act) : List Act := acts.filter (!·.isEcho)

def Moment.withoutEchoes (moment : Moment) : Moment :=
  { moment with notes := moment.notes.filter (!·.act.isEcho) }

@[simp] theorem withoutEchoes_append (a b : List Act) :
    withoutEchoes (a ++ b) = withoutEchoes a ++ withoutEchoes b :=
  List.filter_append a b

theorem notes_withoutEchoes (world : World) (number : Option Nat) (acts : List Act) :
    (world.notes number acts).filter (!·.act.isEcho) = world.notes number (withoutEchoes acts) := by
  unfold World.notes withoutEchoes
  rw [List.filter_map]
  rfl

/-! ### Scripts -/

/-- The move is not one of an observer. -/
def Move.isScripted : Move → Bool
  | .observe _ => false
  | _ => true

/-- The task waits until its change is announced. -/
def World.isAnnouncing (world : World) (number : Nat) : Bool :=
  match world.flight? number with
  | some flight => flight.stage = .announcing
  | none => false

/-- The move, with an announcement that is taken. -/
def World.scripted (world : World) : Move → Move
  | .answer number (.replied result) =>
    .answer number (.replied (if world.isAnnouncing number then .ok () else result))
  | move => move

/-- The moves without those of observers, and with announcements that are taken. -/
def World.script (world : World) : List Move → List Move
  | [] => []
  | move :: rest =>
    if move.isScripted then world.scripted move :: (world.step move).1.script rest
    else (world.step move).1.script rest

/-! ### Stretches without echoes -/

/-- The stretches leave the same behind, and do the same but for echoes. -/
structure TaskStep.Mirrors (step other : TaskStep) : Prop where
  shared : step.shared = other.shared
  task : step.task = other.task
  acts : withoutEchoes step.acts = withoutEchoes other.acts

theorem TaskStep.Mirrors.refl (step : TaskStep) : step.Mirrors step := ⟨rfl, rfl, rfl⟩

section Stretches

variable {coordinator : Coordinator} {now : Nat} {shared : Shared} {task : Task}
variable {flight : Flight} {last : PassStatus} {error : Option String}

theorem endPass_acts (acts : List Act) :
    Flight.endPass shared flight last error acts =
      { Flight.endPass shared flight last error [] with
        acts := acts ++ (Flight.endPass shared flight last error []).acts } := by
  unfold Flight.endPass
  simp only
  split <;> simp [List.append_assoc]

theorem afterRequest_acts (outcome : RequestOutcome) (acts : List Act) :
    Task.afterRequest coordinator now shared task outcome acts =
      { Task.afterRequest coordinator now shared task outcome [] with
        acts := acts ++ (Task.afterRequest coordinator now shared task outcome []).acts } := by
  unfold Task.afterRequest
  cases task.errand with
  | request trigger => rfl
  | change | message =>
    cases Task.failure? outcome <;> simp [Task.finish, List.append_assoc]
  | «loop» forever =>
    cases task.cancelled <;> simp [Task.stop, Task.finish, List.append_assoc]

theorem ofRequest_mirrors {step other : RequestStep} (hshared : step.shared = other.shared)
    (hstate : step.state = other.state)
    (hacts : withoutEchoes step.acts = withoutEchoes other.acts) :
    (Task.ofRequest coordinator now task [] step).Mirrors
      (Task.ofRequest coordinator now task [] other) := by
  unfold Task.ofRequest
  rw [hshared, hstate]
  cases other.state with
  | flying flight => exact ⟨rfl, rfl, hacts⟩
  | settled outcome =>
    simp only [List.nil_append]
    rw [afterRequest_acts outcome step.acts, afterRequest_acts outcome other.acts]
    exact ⟨rfl, rfl, by simp [hacts]⟩

/-- Whether the channel takes an announcement is of no account. -/
theorem afterAnnounce_mirrors (result : Except AdapterError Unit) :
    let taken := Flight.afterAnnounce coordinator shared flight (.ok ())
    let step := Flight.afterAnnounce coordinator shared flight result
    step.shared = taken.shared ∧ step.state = taken.state ∧
      withoutEchoes step.acts = withoutEchoes taken.acts := by
  cases result with
  | ok => exact ⟨rfl, rfl, rfl⟩
  | error cause =>
    simp only [Flight.afterAnnounce]
    rw [endPass_acts, endPass_acts [_, _]]
    exact ⟨rfl, rfl, rfl⟩

theorem resume_mirrors (result : Except AdapterError Unit) {flight : Flight}
    (hstage : task.stage = .flying flight) (hannouncing : flight.stage = .announcing) :
    (task.resume coordinator now shared (.replied result)).Mirrors
      (task.resume coordinator now shared (.replied (.ok ()))) := by
  obtain ⟨hshared, hstate, hacts⟩ := @afterAnnounce_mirrors coordinator shared flight result
  simp only [Task.resume, hstage, Flight.resume, hannouncing]
  exact ofRequest_mirrors hshared hstate hacts

end Stretches

/-! ### Moves without echoes -/

/-- The results differ in the bus and in echoes alone. -/
structure World.Mirrors (result other : World × List Note) : Prop where
  world : ∃ bus, other.1 = { result.1 with bus }
  notes : result.2.filter (!·.act.isEcho) = other.2.filter (!·.act.isEcho)

namespace World

variable {world : World} {bus : EventBus}

theorem act_mirrors (number : Nat) {step other : Task → TaskStep}
    (h : ∀ task, world.tasks[number]? = some task → (step task).Mirrors (other task)) :
    Mirrors (world.act number step) ({ world with bus }.act number other) := by
  unfold World.act
  cases htask : world.tasks[number]? with
  | none => exact ⟨⟨bus, rfl⟩, rfl⟩
  | some task =>
    obtain ⟨hshared, hsame, hacts⟩ := h task htask
    refine ⟨⟨publish bus (other task).acts, ?_⟩, ?_⟩
    · simp only [commit, hshared, hsame]
    · show (world.notes _ (step task).acts).filter _ = (world.notes _ (other task).acts).filter _
      rw [notes_withoutEchoes, notes_withoutEchoes, hacts]

/-- The watch that is started for a task does not depend on the tasks or the bus. -/
theorem watchStarted_congr {world other : World}
    (hcoordinator : other.coordinator = world.coordinator)
    (hresolve : other.resolve = world.resolve)
    (hwatcher : other.watcher = world.watcher) (number place : Nat) :
    ∃ (watcher : Watcher) (records : List LogRecord),
      world.watchStarted number =
        ({ world with watcher }, world.notes (some number) (records.map .log)) ∧
      other.watchStarted place =
        ({ other with watcher }, other.notes (some place) (records.map .log)) := by
  unfold World.watchStarted
  rw [hcoordinator, hresolve, hwatcher]
  split
  · exact ⟨world.watcher, [], rfl, by rw [← hcoordinator, ← hresolve, ← hwatcher]; rfl⟩
  · simp only
    split
    · exact ⟨_, _, rfl, rfl⟩
    · exact ⟨world.watcher, [], rfl, by rw [← hcoordinator, ← hresolve, ← hwatcher]; rfl⟩

/-- An answer only has its task go on, unless a loop hears that its watch was started. -/
theorem answer_cases (world : World) (number : Nat) (reply : Answer) :
    world.answer number reply = world.act number (fun task =>
        task.resume world.coordinator world.now world.shared reply) ∨
      (∃ task, world.tasks[number]? = some task ∧ task.stage = .watching) ∧
        reply = .replied (.ok ()) := by
  unfold World.answer
  split
  · rename_i hwatching
    obtain ⟨task, htask, hstage⟩ := Option.map_eq_some_iff.mp hwatching
    exact .inr ⟨⟨task, htask, hstage⟩, rfl⟩
  · exact .inl rfl

theorem answer_mirrors (number : Nat) (reply : Answer) :
    Mirrors (world.answer number reply) ({ world with bus }.answer number reply) := by
  have hresume : ∀ watcher, Mirrors
      ({ world with watcher }.act number fun task =>
        task.resume world.coordinator world.now world.shared reply)
      ({ world with watcher, bus }.act number fun task =>
        task.resume world.coordinator world.now world.shared reply) := by
    intro watcher
    exact @act_mirrors { world with watcher } bus number _ _ fun _ _ => .refl _
  obtain ⟨watcher, records, hstarted, hother⟩ :=
    @watchStarted_congr world { world with bus } rfl rfl rfl number number
  unfold World.answer
  simp only [hstarted, hother]
  split
  · obtain ⟨hworld, hnotes⟩ := hresume watcher
    refine ⟨hworld, ?_⟩
    show (world.notes _ _ ++ _).filter _ = (world.notes _ _ ++ _).filter _
    rw [List.filter_append, List.filter_append, hnotes]
  · exact hresume world.watcher

/-- The answer to an announcement is not one that starts a watch. -/
theorem answer_announcing {number : Nat} (h : world.isAnnouncing number = true)
    (result : Except AdapterError Unit) :
    world.answer number (.replied result) = world.act number (fun task =>
        task.resume world.coordinator world.now world.shared (.replied result)) ∧
      ∀ task, world.tasks[number]? = some task →
        ∃ flight, task.stage = .flying flight ∧ flight.stage = .announcing := by
  have hflies : ∀ task, world.tasks[number]? = some task →
      ∃ flight, task.stage = .flying flight ∧ flight.stage = .announcing := by
    intro task htask
    unfold isAnnouncing World.flight? at h
    rw [htask] at h
    unfold Task.flight? at h
    simp only [Option.bind_some] at h
    split at h
    · rename_i flight hflight
      split at hflight
      · rename_i other hstage
        cases hflight
        exact ⟨flight, hstage, of_decide_eq_true h⟩
      · cases hflight
    · cases h
  refine ⟨?_, hflies⟩
  rcases answer_cases world number (.replied result) with hact | ⟨⟨task, htask, hstage⟩, _⟩
  · exact hact
  · obtain ⟨flight, hflying, _⟩ := hflies task htask
    rw [hstage] at hflying
    cases hflying

/-- A move does the same on another bus and with an announcement that is taken. -/
theorem step_mirrors (move : Move) :
    Mirrors (world.step move) ({ world with bus }.step (world.scripted move)) := by
  cases move with
  | answer number reply =>
    cases reply with
    | pulled | pushed => exact answer_mirrors number _
    | replied result =>
      simp only [scripted]
      split
      · rename_i hannouncing
        have hbus : { world with bus }.isAnnouncing number = true := hannouncing
        simp only [World.step]
        rw [(answer_announcing hannouncing result).1, (answer_announcing hbus (.ok ())).1]
        refine act_mirrors number fun task htask => ?_
        obtain ⟨flight, hstage, hflight⟩ := (answer_announcing hannouncing result).2 task htask
        exact resume_mirrors result hstage hflight
      · exact answer_mirrors number _
  | panic number | drop number | cancel number | wake number =>
    exact act_mirrors number fun _ _ => .refl _
  | settle | callback =>
    simp only [scripted, World.step]
    split <;> exact ⟨⟨_, rfl⟩, rfl⟩
  | start | raw | rawError | elapse | observe | remark => exact ⟨⟨_, rfl⟩, rfl⟩

/-! ### Runs -/

/-- A run shows what its script shows, on any bus, but for echoes. -/
theorem script_moments (world : World) (bus : EventBus) (moves : List Move) :
    (world.moments (fun _ => Move.isScripted) moves).map Moment.withoutEchoes =
      ({ world with bus }.moments (fun _ => Move.isScripted) (world.script moves)).map
        Moment.withoutEchoes := by
  induction moves generalizing world bus with
  | nil => rfl
  | cons move rest ih =>
    cases hscripted : move.isScripted with
    | false =>
      -- an observer does nothing but to the bus
      cases move with
      | observe observation =>
        simp only [moments, script, hscripted, Bool.false_eq_true, if_false]
        exact ih _ bus
      | _ => cases hscripted
    | true =>
      obtain ⟨⟨next, hnext⟩, hnotes⟩ := @step_mirrors world bus move
      have hstill : (world.scripted move).isScripted = true := by
        unfold scripted
        split
        · rfl
        · exact hscripted
      simp only [moments, script, hscripted, hstill, if_true, List.map_cons]
      rw [hnext, ih _ next]
      simp only [Moment.withoutEchoes, hnotes]

end World

/-- In two runs of one script, on any buses and with any observers, and whether or not the channel
takes the announcements, everything is the same at every move: the clock, the gate, the passes,
where each task stands and what it did and when; except for the events that tell of announcements
and the records of the announcer. -/
theorem observers_without_influence (coordinator : Coordinator)
    (resolve : Option (Path → Option Path)) {bus other : EventBus} {moves others : List Move}
    (h : (World.new coordinator resolve bus).script moves =
      (World.new coordinator resolve other).script others) :
    ((World.new coordinator resolve bus).moments (fun _ => Move.isScripted) moves).map
        Moment.withoutEchoes =
      ((World.new coordinator resolve other).moments (fun _ => Move.isScripted) others).map
        Moment.withoutEchoes := by
  rw [World.script_moments _ bus moves, World.script_moments _ bus others, h]
  rfl

/-- A pass that uploads a file, with an announcement that is answered so. -/
def announcedPass (result : Except AdapterError Unit) : List Move :=
  [.start (.request .timer) false, .answer 0 (.pulled (.ok .noChanges)),
    .answer 0 (.pushed (.ok ⟨.appliedChanges, ⟨["a"], [], [], []⟩⟩)), .answer 0 (.replied result)]

theorem observers_without_influence_refused :
    let start := World.new ⟨.announcing, false, true⟩ none (.new .standard)
    let other := World.new ⟨.announcing, false, true⟩ none
      (.new ⟨1, 0, [], Nat.one_pos, rfl⟩)
    let refused := announcedPass (.error (.connection "gone"))
    let observed := .observe (.subscribe none) :: announcedPass (.ok ())
    start.script observed = other.script refused ∧
      (start.moments (fun _ => Move.isScripted) observed).map Moment.withoutEchoes =
        (other.moments (fun _ => Move.isScripted) refused).map Moment.withoutEchoes :=
  ⟨rfl, observers_without_influence _ none rfl⟩

end ReplicaSync
