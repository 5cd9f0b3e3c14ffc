import Mathlib.Data.List.Chain
import ReplicaSync.Proofs.Coordinator.Clock
import ReplicaSync.Proofs.Coordinator.Listeners

/-!
# The cadence of a loop

A loop tries its listeners first and then makes one request after the other, for the timer. From
the answer to a request until the next one its interval passes, whatever the answer was; but it
never sleeps for longer than the longest sleep. Main statement: `timer_cadence`.
-/

namespace ReplicaSync

/-! ### Rhythm -/

/-- Of two exchanges of a loop that follow one another, one is a request and the other its answer,
or the request comes when the interval has passed since the answer before. -/
inductive InTurn (pause number : Nat) : Note → Note → Prop where
  | answered (asked answered : Nat) (outcome : RequestOutcome) :
    InTurn pause number ⟨asked, some number, .request .timer⟩
      ⟨answered, some number, .settle outcome⟩
  | again (answered : Nat) (outcome : RequestOutcome) :
    InTurn pause number ⟨answered, some number, .settle outcome⟩
      ⟨answered + pause, some number, .request .timer⟩

/-- The exchanges of a loop begin with a request and go on in turn. -/
structure Rhythm (pause number : Nat) (log : List Note) : Prop where
  first : ∀ note ∈ log.head?, note.act = .request .timer
  chain : log.IsChain (InTurn pause number)

/-- Where a loop is after its exchanges. -/
inductive Beat (pause number : Nat) : Stage → List Note → Prop where
  | listens (stage : Stage) (h : stage.isListening = true) : Beat pause number stage []
  | flies (flight : Flight) (log : List Note) (asked : Nat) :
    Beat pause number (.flying flight) (log ++ [⟨asked, some number, .request .timer⟩])
  | sleeps (log : List Note) (answered : Nat) (outcome : RequestOutcome) :
    Beat pause number (.sleeping (answered + pause))
      (log ++ [⟨answered, some number, .settle outcome⟩])
  | «over» (ending : Ending) (log : List Note) : Beat pause number (.over ending) log

section Beats

variable {pause number now : Nat} {log : List Note}

theorem Rhythm.ask (h : Rhythm pause number log)
    (hlast : ∀ last ∈ log.getLast?, InTurn pause number last ⟨now, some number, .request .timer⟩) :
    Rhythm pause number (log ++ [⟨now, some number, .request .timer⟩]) := by
  refine ⟨?_, ?_⟩
  · cases log with
    | nil => simp
    | cons note rest => exact h.first
  · refine h.chain.append (List.isChain_singleton _) fun last hmem next hnext => ?_
    cases hnext
    exact hlast last hmem

theorem Rhythm.answer {asked : Nat}
    (h : Rhythm pause number (log ++ [⟨asked, some number, .request .timer⟩]))
    (outcome : RequestOutcome) :
    Rhythm pause number (log ++ [⟨asked, some number, .request .timer⟩] ++
      [⟨now, some number, .settle outcome⟩]) := by
  refine ⟨?_, ?_⟩
  · cases log with
    | nil => exact h.first
    | cons note rest => exact h.first
  · refine h.chain.append (List.isChain_singleton _) fun last hmem next hnext => ?_
    rw [List.getLast?_concat] at hmem
    cases hmem
    cases hnext
    exact .answered asked now outcome

/-- A loop that may ask, and is not late, asks one interval after its last answer. -/
theorem Beat.mayAsk {stage : Stage} (h : Beat pause number stage log)
    (hmay : stage.mayAsk now = true) (hnow : ∀ due, stage = .sleeping due → now ≤ due) :
    ∀ last ∈ log.getLast?, InTurn pause number last ⟨now, some number, .request .timer⟩ := by
  cases h with
  | listens => exact fun last hmem => (nomatch hmem)
  | flies | «over» => cases hmay
  | sleeps log answered outcome =>
    -- it does not wake early, and the clock has not passed over the moment
    have hdue : answered + pause ≤ now := of_decide_eq_true hmay
    have htime : now = answered + pause := Nat.le_antisymm (hnow _ rfl) hdue
    rw [List.getLast?_concat]
    rintro last ⟨⟩
    rw [htime]
    exact .again answered outcome

end Beats

section Rounds

variable {coordinator : Coordinator} {number now : Nat} {errand : Errand} {cancelled : Bool}
variable {log : List Note}

theorem Rests.beat {after : Stage} (h : Rests coordinator now errand cancelled after)
    (hloop : errand.isLoop = true) (log : List Note) (outcome : RequestOutcome) :
    Beat coordinator.pause number after (log ++ [⟨now, some number, .settle outcome⟩]) := by
  cases h with
  | done ending hnot =>
    rw [hloop] at hnot
    cases hnot
  | stopped => exact .over _ _
  | sleeps => exact .sleeps log now outcome

theorem Round.beats {before after : Stage} {acts : List Act}
    (h : Round coordinator now errand cancelled before acts after) (hloop : errand.isLoop = true)
    (hnow : ∀ due, before = .sleeping due → now ≤ due)
    (hrhythm : Rhythm coordinator.pause number log)
    (hbeat : Beat coordinator.pause number before log) :
    Rhythm coordinator.pause number (log ++ Note.ofActs now number acts) ∧
      Beat coordinator.pause number after (log ++ Note.ofActs now number acts) := by
  have hnone : log ++ Note.ofActs now number [] = log := List.append_nil log
  cases h with
  | waits =>
    rw [hnone]
    exact ⟨hrhythm, hbeat⟩
  | listens _ _ _ hbefore hafter =>
    rw [hnone]
    cases hbeat with
    | listens => exact ⟨hrhythm, .listens _ hafter⟩
    | flies | sleeps | «over» => cases hbefore
  | turns _ _ _ hbefore hturn =>
    have hasked := hrhythm.ask (hbeat.mayAsk hbefore hnow)
    cases hturn with
    | stops =>
      rw [hnone]
      exact ⟨hrhythm, .over _ _⟩
    | enters flight =>
      rw [Errand.trigger_of_isLoop hloop]
      exact ⟨hasked, .flies flight log now⟩
    | refused outcome _ hrests =>
      -- the request and its answer are two exchanges of one stretch
      have hnotes : log ++ Note.ofActs now number [.request errand.trigger, .settle outcome] =
          log ++ [⟨now, some number, .request .timer⟩] ++
            [⟨now, some number, .settle outcome⟩] := by
        rw [Errand.trigger_of_isLoop hloop, List.append_assoc]
        rfl
      rw [hnotes]
      exact ⟨hasked.answer outcome, hrests.beat hloop _ outcome⟩
  | flies flight next =>
    rw [hnone]
    cases hbeat with
    | listens _ hlistens => cases hlistens
    | flies _ log asked => exact ⟨hrhythm, .flies next log asked⟩
  | answered flight _ outcome hrests =>
    cases hbeat with
    | listens _ hlistens => cases hlistens
    | flies _ log asked => exact ⟨hrhythm.answer outcome, hrests.beat hloop _ outcome⟩

theorem Round.awake {before : Stage} {acts : List Act} {wakeAt : Nat}
    (h : Round coordinator now errand cancelled before acts (.sleeping wakeAt)) :
    before = .sleeping wakeAt ∨ cancelled = false := by
  cases h with
  | waits => exact .inl rfl
  | listens _ _ _ _ hafter => cases hafter
  | turns _ _ _ _ hturn =>
    cases hturn with
    | refused _ _ hrests =>
      cases hrests with
      | sleeps _ hawake => exact .inr hawake
  | answered _ _ _ hrests =>
    cases hrests with
    | sleeps _ hawake => exact .inr hawake

end Rounds

/-! ### Runs -/

/-- How a loop ends: it is cancelled, or lost in one of these moves. -/
def EndsBy (moves : List Move) (number : Nat) (task : Task) (ending : Ending) : Prop :=
  ending = .stopped ∧ task.cancelled = true ∨
    ∃ move ∈ moves, move.loss? = some (number, ending)

/-- What is known of a loop that heard from these listeners and had these exchanges. -/
structure Paced (coordinator : Coordinator) (number : Nat) (moves : List Move)
    (heard : List Call) (log : List Note) (task : Task) : Prop where
  rhythm : Rhythm coordinator.pause number log
  beat : Beat coordinator.pause number task.stage log
  heard : heard ++ task.stage.unheard coordinator = coordinator.listeners ∨
    log = [] ∧ ∃ last, task.stage = .over last
  awake : ∀ wakeAt, task.stage = .sleeping wakeAt → task.cancelled = false
  ends : ∀ ending, task.stage = .over ending → EndsBy moves number task ending

section Runs

variable {coordinator : Coordinator} {number : Nat} {moves : List Move} {heard : List Call}
variable {log : List Note} {task : Task}

theorem Paced.new (coordinator : Coordinator) (number : Nat) (moves : List Move)
    (errand : Errand) (cancelled : Bool) :
    Paced coordinator number moves [] [] ⟨errand, cancelled, .ready⟩ where
  rhythm := ⟨fun _ h => (nomatch h), List.isChain_nil⟩
  beat := .listens _ rfl
  heard := .inl rfl
  awake := fun _ h => (nomatch h)
  ends := fun _ h => (nomatch h)

theorem Beat.unheard {pause : Nat} {stage : Stage} (h : Beat pause number stage log)
    (hlog : log ≠ []) : stage.unheard coordinator = [] := by
  cases h with
  | listens => exact (hlog rfl).elim
  | flies | sleeps | «over» => rfl

theorem Paced.heard_eq (h : Paced coordinator number moves heard log task) (hlog : log ≠ []) :
    heard = coordinator.listeners := by
  rcases h.heard with hheard | ⟨hnone, _⟩
  · rwa [h.beat.unheard hlog, List.append_nil] at hheard
  · exact (hlog hnone).elim

theorem EndsBy.snoc {ending : Ending} {after : Task} (h : EndsBy moves number task ending)
    (hcancelled : task.cancelled = true → after.cancelled = true) (move : Move) :
    EndsBy (moves ++ [move]) number after ending := by
  rcases h with ⟨hstopped, htask⟩ | ⟨other, hmem, hloss⟩
  · exact .inl ⟨hstopped, hcancelled htask⟩
  · exact .inr ⟨other, List.mem_append_left _ hmem, hloss⟩

theorem Round.ends {now : Nat} {errand : Errand} {cancelled : Bool} {before : Stage}
    {acts : List Act} {ending : Ending}
    (h : Round coordinator now errand cancelled before acts (.over ending))
    (hloop : errand.isLoop = true) :
    before = .over ending ∨ ending = .stopped ∧ cancelled = true := by
  have hrests : Rests coordinator now errand cancelled (.over ending) →
      ending = .stopped ∧ cancelled = true := by
    intro hrests
    cases hrests with
    | done _ hnot =>
      rw [hloop] at hnot
      cases hnot
    | stopped _ hcancelled => exact ⟨rfl, hcancelled⟩
  cases h with
  | waits => exact .inl rfl
  | listens _ _ _ _ hafter => cases hafter
  | turns _ _ _ _ hturn =>
    cases hturn with
    | stops _ hcancelled => exact .inr ⟨rfl, hcancelled⟩
    | refused _ _ h => exact .inr (hrests h)
  | answered _ _ _ h => exact .inr (hrests h)

theorem Paced.round {now : Nat} {step : TaskStep} {returned : List Call}
    (h : Paced coordinator number moves heard log task) (hloop : task.errand.isLoop = true)
    (hnow : ∀ due, task.stage = .sleeping due → now ≤ due)
    (hstep : step.Rounds coordinator now task)
    (hheard : returned ++ step.task.stage.unheard coordinator = task.stage.unheard coordinator)
    (move : Move) :
    Paced coordinator number (moves ++ [move]) (heard ++ returned)
      (log ++ Note.ofActs now number (exchanges step.acts)) step.task := by
  obtain ⟨hrhythm, hbeat⟩ := hstep.round.beats hloop hnow h.rhythm h.beat
  refine ⟨hrhythm, hbeat, ?_, ?_, ?_⟩
  · rcases h.heard with hall | ⟨rfl, last, hlast⟩
    · rw [List.append_assoc, hheard]
      exact .inl hall
    · -- a loop that is over stays where it is
      have hround := hstep.round
      rw [hlast] at hround
      generalize exchanges step.acts = acts at hround
      generalize hafter : step.task.stage = after at hround
      cases hround with
      | waits => exact .inr ⟨rfl, last, rfl⟩
      | listens _ _ _ hbefore | turns _ _ _ hbefore => cases hbefore
  · intro wakeAt hstage
    have hround := hstep.round
    rw [hstage] at hround
    rw [hstep.cancelled]
    exact hround.awake.elim (h.awake wakeAt) id
  · intro ending hstage
    have hround := hstep.round
    rw [hstage] at hround
    rcases hround.ends hloop with hover | ⟨hstopped, hcancelled⟩
    · exact (h.ends ending hover).snoc (fun htask => hstep.cancelled.trans htask) move
    · exact .inl ⟨hstopped, hstep.cancelled.trans hcancelled⟩

/-- A loop that is lost has heard from all its listeners, or has made no request. -/
theorem Paced.lose {step : TaskStep} {ending : Ending}
    (h : Paced coordinator number moves heard log task) (hstep : step.Loses task ending)
    {move : Move} (hloss : move.loss? = some (number, ending)) :
    Paced coordinator number (moves ++ [move]) heard log step.task := by
  obtain ⟨last, hlast⟩ : ∃ last, step.task.stage = .over last := by
    rcases hstep.stage with hover | ⟨hsame, last, hlast⟩
    · exact ⟨ending, hover⟩
    · exact ⟨last, hsame.trans hlast⟩
  refine ⟨h.rhythm, ?_, ?_, ?_, ?_⟩
  · rw [hlast]
    exact .over last log
  · by_cases hlog : log = []
    · exact .inr ⟨hlog, last, hlast⟩
    · rw [hlast]
      exact .inl ((List.append_nil heard).trans (h.heard_eq hlog))
  · intro wakeAt hstage
    rw [hlast] at hstage
    cases hstage
  · intro other hstage
    rcases hstep.stage with hover | ⟨hsame, _⟩
    · rw [hover] at hstage
      cases hstage
      exact .inr ⟨move, by simp, hloss⟩
    · exact (h.ends other (hsame ▸ hstage)).snoc (fun htask => hstep.cancelled.trans htask) move

theorem Paced.cancel {step : TaskStep} (h : Paced coordinator number moves heard log task)
    (hstep : step.Cancels task) (move : Move) :
    Paced coordinator number (moves ++ [move]) heard log step.task := by
  rcases hstep.stage with ⟨hsame, hasleep⟩ | ⟨hcancelled, hover, wakeAt, hslept⟩
  · refine ⟨h.rhythm, hsame ▸ h.beat, ?_, ?_, ?_⟩
    · rw [hsame]
      exact h.heard
    · intro wakeAt hstage
      rw [hsame] at hstage
      rw [hasleep wakeAt hstage]
      exact h.awake wakeAt hstage
    · intro ending hstage
      exact (h.ends ending (hsame ▸ hstage)).snoc hstep.cancelled move
  · refine ⟨h.rhythm, ?_, ?_, ?_, ?_⟩
    · rw [hover]
      exact .over _ _
    · have hheard := h.heard
      rw [hslept] at hheard
      rw [hover]
      exact .inl (hheard.resolve_right fun hnone => (nomatch hnone.2.choose_spec))
    · intro other hstage
      rw [hover] at hstage
      cases hstage
    · intro ending hstage
      rw [hover] at hstage
      cases hstage
      exact .inl ⟨rfl, hcancelled⟩

theorem Paced.step {world : World} (hworld : world.Timely)
    (htask : world.tasks[number]? = some task) (hloop : task.errand.isLoop = true)
    (h : Paced world.coordinator number moves heard log task) (move : Move) :
    Paced world.coordinator number (moves ++ [move])
      (heard ++ (world.returnedBy number move).map Prod.fst)
      (log ++ Note.ofActs world.now number (exchanges (world.stretch move number task).acts))
      (world.stretch move number task).task := by
  have hnow : ∀ due, task.stage = .sleeping due → world.now ≤ due := fun due hstage =>
    hworld.dues due (World.mem_dues.mpr (.inr ⟨number, task, htask, hstage⟩))
  -- nothing returns to a loop that is lost or cancelled, and nothing is asked or answered
  have hquiet : ∀ step : TaskStep, exchanges step.acts = [] → world.returnedBy number move = [] →
      Paced world.coordinator number (moves ++ [move]) heard log step.task →
      Paced world.coordinator number (moves ++ [move])
        (heard ++ (world.returnedBy number move).map Prod.fst)
        (log ++ Note.ofActs world.now number (exchanges step.acts)) step.task := by
    intro step hacts hnone hpaced
    rw [hacts, hnone]
    show Paced _ _ _ (heard ++ []) (log ++ []) _
    rwa [List.append_nil, List.append_nil]
  by_cases hloss : ∃ ending, move.loss? = some (number, ending)
  · obtain ⟨ending, hloss⟩ := hloss
    have hlost : (world.stretch move number task).Loses task ending :=
      World.stretch_loses task hloss
    refine hquiet _ hlost.quiet ?_ (h.lose hlost hloss)
    cases move with
    | panic | drop => rfl
    | _ => cases hloss
  · have hkept : ∀ ending, move.loss? ≠ some (number, ending) := fun ending hmove =>
      hloss ⟨ending, hmove⟩
    have hheard := World.stretch_unheard htask hloop hkept
    rcases world.stretch_cases number (fun _ => hloop) move with
      hround | hlost | ⟨hmove, hcancel⟩
    · exact h.round hloop hnow hround hheard move
    · exact (hloss hlost).elim
    · refine hquiet _ hcancel.quiet ?_ (h.cancel hcancel move)
      rw [hmove]
      rfl

theorem Paced.start {world : World} {errand : Errand} (hloop : errand.isLoop = true)
    (cancelled : Bool) (moves : List Move) (move : Move) :
    let step := Task.start world.coordinator world.now world.shared errand cancelled
    Paced world.coordinator number (moves ++ [move]) []
      (Note.ofActs world.now number (exchanges step.acts)) step.task := by
  cases errand with
  | request | change | message => cases hloop
  | «loop» forever =>
    have hnew := Paced.new world.coordinator number moves (.loop forever) cancelled
    exact hnew.round rfl (fun _ hready => (nomatch hready))
      (start_rounds world.shared (.loop forever) cancelled)
      (start_unheard world.shared forever cancelled) move

theorem World.returnedBy_noTask {world : World} (htask : world.tasks[number]? = none)
    (move : Move) : world.returnedBy number move = [] := by
  cases move with
  | answer other answer => simp only [World.returnedBy, htask]
  | _ => rfl

/-- A task that is not there has shown nothing, and one that is a loop keeps its pace. -/
structure KeepsPace (coordinator : Coordinator) (number : Nat) (moves : List Move)
    (heard : List Call) (log : List Note) (task? : Option Task) : Prop where
  absent : task? = none → heard = [] ∧ log = []
  paced : ∀ task, task? = some task → task.errand.isLoop = true →
    Paced coordinator number moves heard log task

theorem KeepsPace.step {world : World} (hworld : world.Timely)
    (h : KeepsPace world.coordinator number moves heard log world.tasks[number]?) (move : Move) :
    KeepsPace world.coordinator number (moves ++ [move])
      (heard ++ (world.returnedBy number move).map Prod.fst)
      (log ++ exchangesOf number (world.step move).2) (world.step move).1.tasks[number]? := by
  cases htask : world.tasks[number]? with
  | some task =>
    obtain ⟨hafter, hexchanges⟩ := World.step_task htask move
    rw [hafter, hexchanges]
    refine ⟨fun hgone => (nomatch hgone), fun _ hsome hloop => ?_⟩
    cases hsome
    rw [World.stretch_errand _ _ (hworld.placed number task htask)] at hloop
    exact (h.paced task htask hloop).step hworld htask hloop move
  | none =>
    obtain ⟨rfl, rfl⟩ := h.absent htask
    rw [World.returnedBy_noTask htask]
    rcases World.step_noTask htask move with
      ⟨hafter, hexchanges⟩ | ⟨errand, cancelled, _, _, hafter, hexchanges⟩
    · rw [hafter, hexchanges]
      exact ⟨fun _ => ⟨rfl, rfl⟩, fun _ hsome => (nomatch hsome)⟩
    · rw [hafter, hexchanges]
      refine ⟨fun hgone => (nomatch hgone), fun _ hsome hloop => ?_⟩
      cases hsome
      rw [(start_rounds _ errand cancelled).errand] at hloop
      exact Paced.start hloop cancelled moves move

theorem World.paced_run (coordinator : Coordinator) (resolve : Option (Path → Option Path))
    (bus : EventBus) (number : Nat) (moves : List Move) :
    let start := World.new coordinator resolve bus
    KeepsPace coordinator number moves ((start.returned number moves).map Prod.fst)
      (exchangesOf number (start.run moves).2) (start.run moves).1.tasks[number]? := by
  intro start
  -- a run is continued at its end, so the induction is on the moves from last to first
  induction moves using List.reverseRecOn with
  | nil => exact ⟨fun _ => ⟨rfl, rfl⟩, fun _ htask => (nomatch htask)⟩
  | append_singleton moves move ih =>
    have hcoordinator : (start.run moves).1.coordinator = coordinator :=
      World.run_coordinator start moves
    rw [World.returned_snoc, World.run_snoc, exchangesOf_append, List.map_append,
      ← hcoordinator]
    rw [← hcoordinator] at ih
    exact ih.step (World.timely_run coordinator resolve bus moves) move

theorem Rhythm.asked {pause asked : Nat} {trigger : Trigger} {past after : List Note}
    (h : Rhythm pause number (past ++ ⟨asked, some number, .request trigger⟩ :: after)) :
    trigger = .timer ∧
      (past = [] ∨ ∃ older answered outcome,
        past = older ++ [⟨answered, some number, .settle outcome⟩] ∧ asked = answered + pause) := by
  rcases List.eq_nil_or_concat' past with rfl | ⟨older, last, rfl⟩
  · have hfirst := h.first _ rfl
    cases hfirst
    exact ⟨rfl, .inl rfl⟩
  · rw [List.append_assoc, List.singleton_append] at h
    have hturn := (List.isChain_append_cons_cons.mp h.chain).2.1
    cases hturn with
    | again answered outcome => exact ⟨rfl, .inr ⟨older, answered, outcome, rfl, rfl⟩⟩

theorem Rhythm.next {pause answered : Nat} {outcome : RequestOutcome} {past after : List Note}
    {next : Note}
    (h : Rhythm pause number (past ++ ⟨answered, some number, .settle outcome⟩ :: next :: after)) :
    next = ⟨answered + pause, some number, .request .timer⟩ := by
  have hturn := (List.isChain_append_cons_cons.mp h.chain).2.1
  cases hturn with
  | again => rfl

theorem Beat.of_answered {pause answered : Nat} {outcome : RequestOutcome} {past : List Note}
    {stage : Stage}
    (h : Beat pause number stage (past ++ [⟨answered, some number, .settle outcome⟩])) :
    stage = .sleeping (answered + pause) ∨ ∃ ending, stage = .over ending := by
  generalize hlog : past ++ [⟨answered, some number, .settle outcome⟩] = log at h
  cases h with
  | listens =>
    rw [List.append_eq_nil_iff] at hlog
    cases hlog.2
  | flies flight older asked =>
    have hlast := (List.append_inj' hlog rfl).2
    cases hlast
  | sleeps older moment result =>
    have hlast := (List.append_inj' hlog rfl).2
    cases hlast
    exact .inl rfl
  | «over» ending => exact .inr ⟨ending, rfl⟩

theorem Turn.head? {now : Nat} {errand : Errand} {cancelled : Bool} {acts : List Act}
    {after : Stage} (h : Turn coordinator now errand cancelled acts after)
    (hawake : cancelled = false) : acts.head? = some (.request errand.trigger) := by
  cases h with
  | stops _ hcancelled =>
    rw [hawake] at hcancelled
    cases hcancelled
  | enters | refused => rfl

end Runs

/-- A loop sleeps until this time, which has not passed, and then makes its next request. -/
structure World.AsksNext (world : World) (number time : Nat) : Prop where
  sleeps : ∃ task, world.tasks[number]? = some task ∧ task.stage = .sleeping time
  now : world.now ≤ time
  asks : world.now = time →
    (exchangesOf number (world.step (.wake number)).2).head? =
      some ⟨time, some number, .request .timer⟩

theorem World.asksNext {world : World} (hworld : world.Timely) {number time : Nat} {task : Task}
    (htask : world.tasks[number]? = some task) (hloop : task.errand.isLoop = true)
    (hstage : task.stage = .sleeping time) (hawake : task.cancelled = false) :
    world.AsksNext number time where
  sleeps := ⟨task, htask, hstage⟩
  now := hworld.dues time (World.mem_dues.mpr (.inr ⟨number, task, htask, hstage⟩))
  asks := by
    intro hnow
    obtain ⟨_, hexchanges⟩ := World.step_task htask (.wake number)
    have hwake : world.stretch (.wake number) number task =
        Task.turn world.coordinator world.now world.shared task [] := by
      simp only [World.stretch, World.told, if_pos, Task.wake, hstage, hnow, Nat.le_refl]
    have hturns : (Task.turn world.coordinator world.now world.shared task []).Turns
        world.coordinator world.now task := turn_turns world.shared rfl hloop
    have hhead := hturns.turns.head? hawake
    rw [hexchanges, hwake, Note.ofActs, List.head?_map, hhead, Errand.trigger_of_isLoop hloop, hnow]
    rfl

/-- After an answer the next request is there, or it is still to come, or the loop is over. -/
theorem Paced.answered {coordinator : Coordinator} {number : Nat} {moves : List Move}
    {heard : List Call} {log : List Note} {task : Task} {world : World} {answered : Nat}
    {outcome : RequestOutcome} {past after : List Note}
    (h : Paced coordinator number moves heard log task) (hworld : world.Timely)
    (htask : world.tasks[number]? = some task) (hloop : task.errand.isLoop = true)
    (hlog : log = past ++ ⟨answered, some number, .settle outcome⟩ :: after) :
    (∃ rest, after = ⟨answered + coordinator.pause, some number, .request .timer⟩ :: rest) ∨
      after = [] ∧ (world.AsksNext number (answered + coordinator.pause) ∨
        ∃ ending, task.stage = .over ending ∧ EndsBy moves number task ending) := by
  obtain ⟨hrhythm, hbeat, _, hawake, hends⟩ := h
  subst hlog
  cases after with
  | cons next rest =>
    obtain rfl := hrhythm.next
    exact .inl ⟨rest, rfl⟩
  | nil =>
    refine .inr ⟨rfl, ?_⟩
    rcases hbeat.of_answered with hsleeps | ⟨ending, hover⟩
    · exact .inl (World.asksNext hworld htask hloop hsleeps (hawake _ hsleeps))
    · exact .inr ⟨ending, hover, hends ending hover⟩

/-- In every run, a loop makes no request before the listeners have returned, and it makes each
later one when its interval has passed since the request before was answered, whatever the answer
was; the interval is rounded up to whole milliseconds, and it counts for thirty years at most. After
each answer the next request is there, or the loop sleeps until the time for it comes, which the
clock does not pass over, or the loop has been cancelled or lost. -/
theorem timer_cadence (coordinator : Coordinator) (resolve : Option (Path → Option Path))
    (bus : EventBus) (moves : List Move) (number : Nat) (task : Task)
    (htask : ((World.new coordinator resolve bus).run moves).1.tasks[number]? = some task)
    (hloop : task.errand.isLoop = true) :
    let start := World.new coordinator resolve bus
    let log := exchangesOf number (start.run moves).2
    let pause := min coordinator.config.interval.ticks Duration.longestSleep
    (log ≠ [] → (start.returned number moves).map Prod.fst = coordinator.listeners) ∧
    (∀ past asked trigger after, log = past ++ ⟨asked, some number, .request trigger⟩ :: after →
      trigger = .timer ∧
        (past = [] ∨ ∃ older answered outcome,
          past = older ++ [⟨answered, some number, .settle outcome⟩] ∧
            asked = answered + pause)) ∧
    ∀ past answered outcome after,
      log = past ++ ⟨answered, some number, .settle outcome⟩ :: after →
      (∃ rest, after = ⟨answered + pause, some number, .request .timer⟩ :: rest) ∨
        after = [] ∧ ((start.run moves).1.AsksNext number (answered + pause) ∨
          ∃ ending, task.stage = .over ending ∧ EndsBy moves number task ending) := by
  intro start log pause
  have hpaced : Paced coordinator number moves ((start.returned number moves).map Prod.fst) log
      task := (World.paced_run coordinator resolve bus number moves).paced task htask hloop
  refine ⟨hpaced.heard_eq, fun past asked trigger after hlog => ?_,
    fun past answered outcome after hlog => ?_⟩
  · have hrhythm := hpaced.rhythm
    rw [hlog] at hrhythm
    exact hrhythm.asked
  · exact hpaced.answered (World.timely_run coordinator resolve bus moves) htask hloop hlog

/-- A coordinator without listeners. -/
def Coordinator.withInterval (interval : Duration) : Coordinator where
  config :=
    { localDir := ⟨[Path.slash, 0x61]⟩
      appDir := ⟨[Path.slash, 0x62]⟩
      cacheDir := ⟨[Path.slash, 0x63]⟩
      databaseDir := ⟨[Path.slash, 0x64]⟩
      logDir := ⟨[Path.slash, 0x65]⟩
      repository := ⟨[0xab], by decide⟩
      interval
      announcements := none
      policy := .drop
      debounce := .ofMillis 3000 }
  hasWatcher := false
  hasChannel := false

/-- A loop makes its first request, and is woken when so many milliseconds have passed. -/
def twoRounds (ms : Nat) : List Move :=
  [.start (.loop false) false, .answer 0 (.pulled (.ok .noChanges)),
    .answer 0 (.pushed (.ok .noChanges)), .elapse ms, .wake 0]

theorem timer_cadence_second :
    let start := World.new (.withInterval (.ofMillis 1000)) none (.new .standard)
    ∃ outcome rest, exchangesOf 0 (start.run (twoRounds 1000)).2 =
      ⟨0, some 0, .request .timer⟩ :: ⟨0, some 0, .settle outcome⟩ ::
        ⟨1000, some 0, .request .timer⟩ :: rest := by
  intro start
  have hsome : ((start.run (twoRounds 1000)).1.tasks[0]?.any (·.errand.isLoop)) = true := by
    decide +kernel
  obtain ⟨task, htask, hloop⟩ := (Option.any_eq_true _ _).mp hsome
  have hlog : exchangesOf 0 (start.run (twoRounds 1000)).2 =
      [⟨0, some 0, .request .timer⟩] ++ ⟨0, some 0, .settle (.executed ⟨1, .noChanges, none⟩)⟩ ::
        (exchangesOf 0 (start.run (twoRounds 1000)).2).drop 2 := by
    decide +kernel
  have hcadence := timer_cadence (.withInterval (.ofMillis 1000)) none (.new .standard)
    (twoRounds 1000) 0 task htask hloop
  rcases hcadence.2.2 _ _ _ _ hlog with ⟨rest, hrest⟩ | ⟨hnone, _⟩
  · refine ⟨.executed ⟨1, .noChanges, none⟩, rest, ?_⟩
    rw [hlog, hrest]
    rfl
  · have hnext : (exchangesOf 0 (start.run (twoRounds 1000)).2).drop 2 ≠ [] := by decide +kernel
    exact (hnext hnone).elim

/-- The whole interval need not pass between an answer and the next request. -/
theorem interval_cut_short :
    ¬ ∀ coordinator resolve bus moves number past answered outcome asked after,
      coordinator.config.validate = .ok () →
      exchangesOf number ((World.new coordinator resolve bus).run moves).2 =
        past ++ ⟨answered, some number, .settle outcome⟩ ::
          ⟨asked, some number, .request .timer⟩ :: after →
      asked = answered + coordinator.config.interval.ticks := by
  intro h
  have hasked := h (.withInterval (.ofMillis 9223372036854775808)) none (.new .standard)
    (twoRounds Duration.longestSleep) 0 [⟨0, some 0, .request .timer⟩] 0
    (.executed ⟨1, .noChanges, none⟩) Duration.longestSleep [] (by decide +kernel)
    (by decide +kernel)
  revert hasked
  decide +kernel

end ReplicaSync
