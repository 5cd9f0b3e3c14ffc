import ReplicaSync.Proofs.Coordinator.TaskView

/-!
# The clock

The clock does not pass over a moment at which something is due, so whatever is due happens on
time: a loop that wakes does so at the very moment for which it went to sleep, and a batch settles
when its quiet period is over. Main statements: `step_watcher`, what a move does to the watcher, and
`timely_run`.
-/

namespace ReplicaSync

namespace World

/-! ### How far the clock goes -/

theorem foldl_min_le (now : Nat) (dues : List Nat) (limit : Nat) :
    dues.foldl (fun limit due => min limit (max due now)) limit ≤ limit := by
  induction dues generalizing limit with
  | nil => exact Nat.le_refl _
  | cons due rest ih => exact Nat.le_trans (ih _) (Nat.min_le_left _ _)

theorem foldl_min_le_due (now : Nat) {dues : List Nat} {due : Nat} (h : due ∈ dues) (limit : Nat) :
    dues.foldl (fun limit due => min limit (max due now)) limit ≤ max due now := by
  induction dues generalizing limit with
  | nil => cases h
  | cons first rest ih =>
    rw [List.foldl_cons]
    rcases List.mem_cons.mp h with rfl | hrest
    · exact Nat.le_trans (foldl_min_le now rest _) (Nat.min_le_right _ _)
    · exact ih hrest _

theorem clockAfter_le {world : World} {due : Nat} (h : due ∈ world.dues) (hdue : world.now ≤ due)
    (ms : Nat) : world.clockAfter ms ≤ due := by
  have hle : world.clockAfter ms ≤ max due world.now := foldl_min_le_due world.now h _
  rwa [Nat.max_eq_left hdue] at hle

theorem mem_dues {world : World} {due : Nat} :
    due ∈ world.dues ↔
      world.watcher.due? = some due ∨
        ∃ (number : Nat) (task : Task), world.tasks[number]? = some task ∧
          task.stage = .sleeping due := by
  unfold World.dues
  rw [List.mem_append, Option.mem_toList, List.mem_filterMap]
  refine or_congr Iff.rfl ⟨?_, ?_⟩
  · rintro ⟨task, htask, hdue⟩
    obtain ⟨number, hnumber⟩ := List.mem_iff_getElem?.mp htask
    refine ⟨number, task, hnumber, ?_⟩
    unfold Task.wakeAt? at hdue
    split at hdue
    · rename_i wakeAt hstage
      cases hdue
      exact hstage
    · cases hdue
  · rintro ⟨number, task, hnumber, hstage⟩
    refine ⟨task, List.mem_of_getElem? hnumber, ?_⟩
    rw [Task.wakeAt?, hstage]

/-! ### The watcher in a move -/

/-- The watch that the answer to a loop begins. -/
def newWatch (world : World) (resolve : Path → Option Path) : Watch :=
  ⟨world.coordinator.config.localDir,
    Path.withResolved resolve world.coordinator.config.ignoredPaths, 0, none⟩

/-- What a move does to the watcher. -/
inductive Watches (world : World) : Move → Watcher → Prop where
  | ignores (event : RawEvent)
      (h : ∀ watch, world.watcher.watch = some watch → event.isRelevant watch.ignored = false) :
    Watches world (.raw event) world.watcher
  | notices (event : RawEvent) (watch : Watch) (hwatch : world.watcher.watch = some watch)
      (h : event.isRelevant watch.ignored = true) :
    Watches world (.raw event) { world.watcher with
      watch := some { watch with due := some (world.now + world.watcher.debounce.ticks) } }
  | settles (watch : Watch) (due : Nat) (hwatch : world.watcher.watch = some watch)
      (hdue : watch.due = some due) (hover : due ≤ world.now)
      (h : (world.watcher.settle world.now).2 = some watch.number) :
    Watches world .settle { world.watcher with watch := some { watch with due := none } }
  | starts (number : Nat) (task : Task) (resolve : Path → Option Path)
      (htask : world.tasks[number]? = some task) (hstage : task.stage = .watching)
      (hresolve : world.resolve = some resolve) :
    Watches world (.answer number (.replied (.ok ())))
      { world.watcher with watch := some (world.newWatch resolve) }
  | stays (move : Move) (hraw : ∀ event, move ≠ .raw event)
      (hsettle : move = .settle → (world.watcher.settle world.now).2 = none) :
    Watches world move world.watcher

theorem Watches.untouched {world : World} {move : Move} (hraw : ∀ event, move ≠ .raw event)
    (hsettle : move ≠ .settle) : world.Watches move world.watcher :=
  .stays move hraw fun h => (hsettle h).elim

theorem notice_watcher (world : World) (event : RawEvent) :
    world.Watches (.raw event) (world.watcher.notice world.now event) := by
  unfold Watcher.notice
  split
  · rename_i hnone
    refine .ignores event fun watch hwatch => ?_
    rw [hnone] at hwatch
    cases hwatch
  · rename_i watch hwatch
    split
    · rename_i hrelevant
      exact .notices event watch hwatch hrelevant
    · rename_i hirrelevant
      refine .ignores event fun other hother => ?_
      rw [hwatch] at hother
      cases hother
      exact Bool.eq_false_iff.mpr hirrelevant

theorem settle_watcher {world : World} {watcher : Watcher} {number : Nat}
    (h : world.watcher.settle world.now = (watcher, some number)) :
    world.Watches .settle watcher := by
  have hnumber : (world.watcher.settle world.now).2 = some number := by rw [h]
  unfold Watcher.settle at h
  split at h
  · rename_i watch hwatch
    split at h
    · rename_i due hdue
      split at h
      · rename_i hover
        cases h
        exact .settles watch due hwatch hdue hover hnumber
      · cases h
    · cases h
  · cases h

theorem act_watcher (world : World) (number : Nat) (step : Task → TaskStep) :
    (world.act number step).1.watcher = world.watcher := by
  obtain ⟨shared, tasks, bus, hact⟩ := act_keeps world number step
  rw [hact]

theorem watchStarted_watcher (world : World) (number : Nat) :
    (world.watchStarted number).1.watcher =
      match world.resolve with
      | some resolve => { world.watcher with watch := some (world.newWatch resolve) }
      | none => world.watcher := by
  unfold World.watchStarted Watcher.start Watcher.Faults.none
  cases world.resolve with
  | none => rfl
  | some resolve => rfl

theorem answer_watcher (world : World) (number : Nat) (reply : Answer) :
    world.Watches (.answer number reply) (world.answer number reply).1.watcher := by
  have hstays : world.Watches (.answer number reply) world.watcher :=
    .untouched (by simp) (by simp)
  unfold World.answer
  split
  · rename_i hstage
    obtain ⟨task, htask, hwatching⟩ := Option.map_eq_some_iff.mp hstage
    simp only [act_watcher, watchStarted_watcher]
    cases hresolve : world.resolve with
    | none => exact hstays
    | some resolve => exact .starts number task resolve htask hwatching hresolve
  · rw [act_watcher]
    exact hstays

theorem step_watcher (world : World) (move : Move) :
    world.Watches move (world.step move).1.watcher := by
  cases move with
  | answer number reply => exact answer_watcher world number reply
  | raw event => exact notice_watcher world event
  | settle =>
    simp only [World.step]
    split
    · rename_i watcher number hsettle
      exact settle_watcher hsettle
    · rename_i watcher hsettle
      refine .stays _ (by simp) fun _ => ?_
      rw [hsettle]
  | panic number | drop number | cancel number | wake number =>
    simp only [World.step, act_watcher]
    exact .untouched (by simp) (by simp)
  | callback =>
    simp only [World.step]
    split
    · exact .untouched (by simp) (by simp)
    · exact .untouched (by simp) (by simp)
  | start | rawError | elapse | observe | remark =>
    exact .untouched (by simp) (by simp)

/-- A quiet period that runs after a move ran before it or began anew with it. -/
theorem Watches.due {world : World} {move : Move} {watcher : Watcher}
    (h : world.Watches move watcher) {due : Nat} (hdue : watcher.due? = some due) :
    world.watcher.due? = some due ∨ due = world.now + world.watcher.debounce.ticks := by
  cases h with
  | notices => exact .inr (Option.some.inj hdue).symm
  | settles | starts => cases hdue
  | ignores | stays => exact .inl hdue

theorem step_now (world : World) (move : Move) :
    (world.step move).1.now = world.now ∨ ∃ ms, move = .elapse ms ∧
      world.step move = ({ world with now := world.clockAfter ms }, []) := by
  have hact : ∀ number step, (world.act number step).1.now = world.now := by
    intro number step
    obtain ⟨shared, tasks, bus, hact⟩ := act_keeps world number step
    rw [hact]
  cases move with
  | elapse ms => exact .inr ⟨ms, rfl, rfl⟩
  | answer number reply =>
    obtain ⟨shared, tasks, watcher, bus, hanswer⟩ := answer_keeps world number reply
    refine .inl ?_
    simp only [World.step, hanswer]
  | panic number | drop number | cancel number | wake number => exact .inl (hact number _)
  | settle | callback =>
    refine .inl ?_
    simp only [World.step]
    split <;> rfl
  | start | raw | rawError | observe | remark => exact .inl rfl

/-! ### Nothing is overdue -/

/-- Only loops wait for something else than a pass, and nothing that is due was passed over. -/
structure Timely (world : World) : Prop where
  placed : ∀ (number : Nat) (task : Task), world.tasks[number]? = some task →
    task.stage.ofLoop = true → task.errand.isLoop = true
  dues : ∀ due ∈ world.dues, world.now ≤ due

theorem mem_step_tasks {world : World} {move : Move} {number : Nat} {task : Task}
    (h : (world.step move).1.tasks[number]? = some task) :
    (∃ before, world.tasks[number]? = some before ∧
      task = (world.stretch move number before).task) ∨
      ∃ errand cancelled, world.begun move = some (errand, cancelled) ∧
        number = world.tasks.length ∧
        task = (Task.start world.coordinator world.now world.shared errand cancelled).task := by
  cases hbefore : world.tasks[number]? with
  | some before =>
    obtain ⟨htask, _⟩ := step_task hbefore move
    rw [h] at htask
    exact .inl ⟨before, rfl, Option.some.inj htask⟩
  | none =>
    rcases step_noTask hbefore move with ⟨hnone, _⟩ | ⟨errand, cancelled, hbegun, hnumber, htask, _⟩
    · rw [h] at hnone
      cases hnone
    · rw [h] at htask
      exact .inr ⟨errand, cancelled, hbegun, hnumber, Option.some.inj htask⟩

/-- A task of a timely world goes on where it may be, and sleeps for its interval. -/
theorem Timely.step_task {world : World} (h : world.Timely) {move : Move} {number : Nat}
    {task : Task} (htask : (world.step move).1.tasks[number]? = some task) :
    (task.stage.ofLoop = true → task.errand.isLoop = true) ∧
      ∀ due, task.stage = .sleeping due →
        due ∈ world.dues ∨ due = world.now + world.coordinator.pause := by
  rcases mem_step_tasks htask with ⟨before, hbefore, rfl⟩ | ⟨errand, cancelled, _, _, rfl⟩
  · have hplace := h.placed number before hbefore
    have hslept : ∀ due, before.stage = .sleeping due → due ∈ world.dues := fun due hstage =>
      mem_dues.mpr (.inr ⟨number, before, hbefore, hstage⟩)
    rcases stretch_cases world number hplace move with hround | ⟨ending, hloss⟩ | ⟨_, hcancel⟩
    · rw [hround.errand]
      refine ⟨hround.round.placed hplace, fun due hstage => ?_⟩
      have hwakes := hround.round
      rw [hstage] at hwakes
      exact hwakes.wakes.imp_left (hslept due)
    · rcases (stretch_loses before hloss).stage with hover | ⟨hsame, last, hlast⟩
      · rw [hover]
        exact ⟨fun hloop => (nomatch hloop), fun due hstage => (nomatch hstage)⟩
      · rw [hsame, hlast]
        exact ⟨fun hloop => (nomatch hloop), fun due hstage => (nomatch hstage)⟩
    · rw [hcancel.errand]
      rcases hcancel.stage with ⟨hsame, _⟩ | ⟨_, hover, _⟩
      · rw [hsame]
        exact ⟨hplace, fun due hstage => .inl (hslept due hstage)⟩
      · rw [hover]
        exact ⟨fun hloop => (nomatch hloop), fun due hstage => (nomatch hstage)⟩
  · have hround : (Task.start world.coordinator world.now world.shared errand cancelled).Rounds
        world.coordinator world.now ⟨errand, cancelled, .ready⟩ :=
      start_rounds world.shared errand cancelled
    refine ⟨?_, fun due hstage => ?_⟩
    · rw [hround.errand]
      cases hloop : errand.isLoop with
      | true => exact fun _ => rfl
      | false =>
        intro hstage
        rw [← hloop]
        exact (start_turns world.shared cancelled hloop).turns.placed hstage
    · have hwakes := hround.round
      rw [hstage] at hwakes
      exact .inr (hwakes.wakes.resolve_left fun hready => nomatch hready)

theorem Timely.step {world : World} (h : world.Timely) (move : Move) :
    (world.step move).1.Timely := by
  refine ⟨fun number task htask => (h.step_task htask).1, fun due hdue => ?_⟩
  have hbefore : due ∈ world.dues ∨ world.now ≤ due := by
    rcases mem_dues.mp hdue with hwatcher | ⟨number, task, htask, hstage⟩
    · rcases (step_watcher world move).due hwatcher with hran | rfl
      · exact .inl (mem_dues.mpr (.inl hran))
      · exact .inr (Nat.le_add_right _ _)
    · rcases (h.step_task htask).2 due hstage with hslept | rfl
      · exact .inl hslept
      · exact .inr (Nat.le_add_right _ _)
  have hnow : world.now ≤ due := hbefore.elim (h.dues due) id
  have helapse : ∀ ms, due ∈ world.dues → world.clockAfter ms ≤ due := fun ms hmem =>
    clockAfter_le hmem hnow ms
  rcases step_now world move with hsame | ⟨ms, rfl, helapsed⟩
  · rw [hsame]
    exact hnow
  · -- when time passes nothing else changes, so the moment was due before
    rw [helapsed] at hdue ⊢
    exact helapse ms hdue

theorem Timely.new (coordinator : Coordinator) (resolve : Option (Path → Option Path))
    (bus : EventBus) : (World.new coordinator resolve bus).Timely :=
  ⟨fun _ _ h => (nomatch h), fun _ h => (nomatch h)⟩

theorem timely_run (coordinator : Coordinator) (resolve : Option (Path → Option Path))
    (bus : EventBus) (moves : List Move) :
    ((World.new coordinator resolve bus).run moves).1.Timely := by
  induction moves using List.reverseRecOn with
  | nil => exact .new coordinator resolve bus
  | append_singleton moves move ih =>
    rw [run_snoc]
    exact ih.step move

end World

end ReplicaSync
