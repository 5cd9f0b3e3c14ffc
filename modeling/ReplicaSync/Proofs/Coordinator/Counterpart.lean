import ReplicaSync.Proofs.Coordinator.Clock
import ReplicaSync.Proofs.Coordinator.Marks

/-!
# Counterparts

A world and its counterpart without some tasks: the tasks that remain stand where they stood, and
the shared state is the same but for the mark on the gate. Main statement: `Thins.step`, that they
remain counterparts after a move that is kept.
-/

namespace ReplicaSync

namespace World

/-- The other world lacks the tasks that are gone, which are all over. -/
structure Thins (gone : Nat → Bool) (world thin : World) : Prop where
  coordinator : thin.coordinator = world.coordinator
  resolve : thin.resolve = world.resolve
  watcher : thin.watcher = world.watcher
  now : thin.now = world.now
  shared : world.shared.unmarked = thin.shared.unmarked
  tasks : thin.tasks = without gone world.tasks
  spawned : world.spawned ≤ thin.spawned
  idle : ∀ number task, gone number = true → world.tasks[number]? = some task →
    ∃ ending, task.stage = .over ending

/-- What moves led to, and what their counterparts led to. -/
structure ThinsResult (gone : Nat → Bool) (result thin : World × List Note) : Prop where
  world : result.1.Thins gone thin.1
  notes : thin.2 = thinNotes gone result.2

section Moves

variable {gone : Nat → Bool} {world thin : World}

theorem Thins.task? (h : world.Thins gone thin) {number : Nat} (hkept : gone number = false) :
    thin.tasks[place gone number]? = world.tasks[number]? := by
  rw [h.tasks, getElem?_without _ hkept]

theorem Thins.length (h : world.Thins gone thin) :
    thin.tasks.length = place gone world.tasks.length := by
  rw [h.tasks, length_without]

theorem Thins.act (h : world.Thins gone thin) {number : Nat} (hkept : gone number = false)
    {step other : Task → TaskStep}
    (halike : ∀ task, world.tasks[number]? = some task → (step task).Alike (other task)) :
    ThinsResult gone (world.act number step) (thin.act (place gone number) other) := by
  unfold World.act
  rw [h.task? hkept]
  cases htask : world.tasks[number]? with
  | none => exact ⟨h, rfl⟩
  | some task =>
    obtain ⟨hshared, hsame, hacts⟩ := halike task htask
    refine ⟨⟨h.coordinator, h.resolve, h.watcher, h.now, hshared, ?_, h.spawned, ?_⟩, ?_⟩
    · show thin.tasks.set _ (other task).task = without gone (world.tasks.set number _)
      rw [without_set _ hkept, h.tasks, hsame]
    · intro place found hgone hfound
      have hne : number ≠ place := by
        rintro rfl
        rw [hkept] at hgone
        cases hgone
      exact h.idle place found hgone ((List.getElem?_set_ne hne).symm.trans hfound)
    · show Note.ofActs thin.now _ (other task).acts = thinNotes gone (Note.ofActs world.now _ _)
      rw [thinNotes_kept hkept, h.now, hacts]

/-- A task that begins comes last, and shows what its first stretch does. -/
theorem begin_eq (world : World) (errand : Errand) (cancelled : Bool) :
    let step := Task.start world.coordinator world.now world.shared errand cancelled
    world.begin errand cancelled =
      ({ world with
          shared := step.shared
          tasks := world.tasks ++ [step.task]
          bus := publish world.bus step.acts },
        Note.ofActs world.now world.tasks.length step.acts) := by
  intro step
  show ({ world with tasks := world.tasks ++ [step.task] }.commit world.tasks.length step) = _
  simp only [commit, List.set_append_right _ _ (Nat.le_refl _), Nat.sub_self, List.set_cons_zero]
  rfl

theorem Thins.begin (h : world.Thins gone thin) (hkept : gone world.tasks.length = false)
    (errand : Errand) (cancelled : Bool) :
    ThinsResult gone (world.begin errand cancelled) (thin.begin errand cancelled) := by
  have halike : (Task.start world.coordinator world.now world.shared errand cancelled).Alike
      (Task.start thin.coordinator thin.now thin.shared errand cancelled) := by
    rw [h.coordinator, h.now]
    exact start_alike h.shared errand cancelled
  rw [begin_eq, begin_eq]
  refine ⟨⟨h.coordinator, h.resolve, h.watcher, h.now, halike.shared, ?_, h.spawned, ?_⟩, ?_⟩
  · simp only [without_concat, hkept, h.tasks, halike.task, Bool.false_eq_true, if_false]
  · intro number task hgone htask
    have hne : number ≠ world.tasks.length := by
      rintro rfl
      rw [hkept] at hgone
      cases hgone
    refine h.idle number task hgone ?_
    rcases Nat.lt_or_gt_of_ne hne with hlt | hgt
    · rwa [List.getElem?_append_left hlt] at htask
    · rw [List.getElem?_eq_none (by simp; omega)] at htask
      cases htask
  · simp only
    rw [thinNotes_kept hkept, h.length, ← halike.acts, h.now]

theorem Thins.withWatcher (h : world.Thins gone thin) (watcher : Watcher) :
    { world with watcher }.Thins gone { thin with watcher } :=
  ⟨h.coordinator, h.resolve, rfl, h.now, h.shared, h.tasks, h.spawned, h.idle⟩

theorem thinNotes_log {number : Nat} (hkept : gone number = false) (h : thin.now = world.now)
    (records : List LogRecord) :
    thin.notes (some (place gone number)) (records.map .log) =
      thinNotes gone (world.notes (some number) (records.map .log)) := by
  show Note.ofActs thin.now _ _ = thinNotes gone (Note.ofActs world.now _ _)
  rw [thinNotes_kept hkept, h]

theorem Thins.answer (h : world.Thins gone thin) {number : Nat} (hkept : gone number = false)
    {reply : Answer}
    (halike : ∀ task, world.tasks[number]? = some task →
      (task.resume world.coordinator world.now world.shared reply).Alike
        (task.resume world.coordinator world.now thin.shared reply)) :
    ThinsResult gone (world.answer number reply) (thin.answer (place gone number) reply) := by
  have hresume : ∀ watcher, ThinsResult gone
      ({ world with watcher }.act number fun task =>
        task.resume world.coordinator world.now world.shared reply)
      ({ thin with watcher }.act (place gone number) fun task =>
        task.resume thin.coordinator thin.now thin.shared reply) := by
    intro watcher
    refine (h.withWatcher watcher).act hkept fun task htask => ?_
    rw [h.coordinator, h.now]
    exact halike task htask
  obtain ⟨watcher, records, hstarted, hother⟩ :=
    watchStarted_congr h.coordinator h.resolve h.watcher number (place gone number)
  unfold World.answer
  rw [h.task? hkept]
  simp only [hstarted, hother]
  split
  · obtain ⟨hworld, hnotes⟩ := hresume watcher
    refine ⟨hworld, ?_⟩
    simp only
    rw [thinNotes_append, hnotes, thinNotes_log hkept h.now]
  · have hthin : { thin with watcher := world.watcher } = thin := by rw [← h.watcher]
    have hsame := hresume world.watcher
    rw [hthin] at hsame
    exact hsame

theorem Thins.clockAfter (h : world.Thins gone thin) (ms : Nat) :
    thin.clockAfter ms = world.clockAfter ms := by
  have hwakes : thin.tasks.filterMap Task.wakeAt? = world.tasks.filterMap Task.wakeAt? := by
    rw [h.tasks]
    refine filterMap_without _ _ fun number task hgone htask => ?_
    obtain ⟨ending, hstage⟩ := h.idle number task hgone htask
    simp [Task.wakeAt?, hstage]
  unfold World.clockAfter World.dues
  rw [h.watcher, h.now, hwakes]

/-- What a task does with an answer is shown. -/
theorem answer_shows {number : Nat} {task : Task} (htask : world.tasks[number]? = some task)
    {reply : Answer} {act : Act}
    (hact : act ∈ (task.resume world.coordinator world.now world.shared reply).acts) :
    ⟨world.now, some number, act⟩ ∈ (world.answer number reply).2 := by
  have hresume : ∀ watcher, ⟨world.now, some number, act⟩ ∈
      ({ world with watcher }.act number fun task =>
        task.resume world.coordinator world.now world.shared reply).2 := by
    intro watcher
    unfold World.act
    simp only [htask]
    exact Note.mem_ofActs.mpr ⟨rfl, rfl, hact⟩
  unfold World.answer
  split
  · obtain ⟨watcher, records, heq⟩ := watchStarted_eq world number
    simp only [heq]
    exact List.mem_append_right _ (hresume watcher)
  · exact hresume world.watcher

theorem act_remains {number : Nat} (hkept : gone number = false) (step : Task → TaskStep) :
    ∀ note ∈ (world.act number step).2, note.remains gone = true := by
  unfold World.act
  cases world.tasks[number]? with
  | none => exact List.forall_mem_nil _
  | some task => exact remains_ofActs hkept _ _

/-- What is shown in a move that is kept was not done by a task that is gone. -/
theorem step_remains {move : Move} (hkeeps : world.keeps gone move = true) :
    ∀ note ∈ (world.step move).2, note.remains gone = true := by
  cases move with
  | start errand cancelled =>
    have hkept : gone world.tasks.length = false := by simpa [keeps] using hkeeps
    exact remains_ofActs hkept _ _
  | callback =>
    obtain ⟨hspawned, hkept⟩ : world.spawned ≠ 0 ∧ gone world.tasks.length = false := by
      simpa [keeps] using hkeeps
    simp only [World.step]
    split
    · exact List.forall_mem_nil _
    · exact remains_ofActs hkept _ _
  | answer number reply =>
    have hkept : gone number = false := by simpa [keeps] using hkeeps
    simp only [World.step, World.answer]
    split
    · obtain ⟨watcher, records, heq⟩ := watchStarted_eq world number
      simp only [heq]
      exact List.forall_mem_append.mpr ⟨remains_ofActs hkept _ _, act_remains hkept _⟩
    · exact act_remains hkept _
  | panic number | drop number | cancel number | wake number =>
    have hkept : gone number = false := by simpa [keeps] using hkeeps
    exact act_remains hkept _
  | settle =>
    simp only [World.step]
    split
    · exact remains_outside world _
    · exact List.forall_mem_nil _
  | rawError | remark => exact remains_outside world _
  | raw | elapse | observe => exact List.forall_mem_nil _

/-- After a move that is kept the counterparts are still counterparts, if the gates are marked
alike or no pass begins in the move. -/
theorem Thins.step (h : world.Thins gone thin) {move : Move} (hkeeps : world.keeps gone move = true)
    (hmark : world.shared = thin.shared ∨ world.shared.gate.pending = true ∧
      ∀ note ∈ (world.step move).2, note.act.started? = none) :
    ThinsResult gone (world.step move) (thin.step (move.renumber gone)) := by
  have hnow := h.now
  have hcoordinator := h.coordinator
  cases move with
  | start errand cancelled =>
    have hkept : gone world.tasks.length = false := by simpa [keeps] using hkeeps
    exact h.begin hkept errand cancelled
  | answer number reply =>
    have hkept : gone number = false := by simpa [keeps] using hkeeps
    refine h.answer hkept fun task htask => ?_
    -- a pass can end here, so this is where the mark counts
    rcases hmark with hsame | ⟨hpending, hstarted⟩
    · rw [hsame]
      exact ⟨rfl, rfl, rfl⟩
    · refine resume_alike h.shared hpending fun act hact => ?_
      exact hstarted _ (answer_shows htask hact)
  | panic number | drop number =>
    have hkept : gone number = false := by simpa [keeps] using hkeeps
    exact h.act hkept fun task _ => abandon_alike h.shared task _
  | cancel number =>
    have hkept : gone number = false := by simpa [keeps] using hkeeps
    exact h.act hkept fun task _ => cancel_alike h.shared task
  | wake number =>
    have hkept : gone number = false := by simpa [keeps] using hkeeps
    refine h.act hkept fun task _ => ?_
    rw [hcoordinator, hnow]
    exact wake_alike h.shared task
  | callback =>
    obtain ⟨hspawned, hkept⟩ : world.spawned ≠ 0 ∧ gone world.tasks.length = false := by
      simpa [keeps] using hkeeps
    -- callbacks that are left out stay spawned in the counterpart, so it has one too
    obtain ⟨left, hleft⟩ := Nat.exists_eq_succ_of_ne_zero hspawned
    have hle := h.spawned
    obtain ⟨more, hmore⟩ : ∃ more, thin.spawned = more + 1 := ⟨thin.spawned - 1, by omega⟩
    have hthins : { world with spawned := left }.Thins gone { thin with spawned := more } :=
      ⟨hcoordinator, h.resolve, h.watcher, hnow, h.shared, h.tasks, by simp only; omega, h.idle⟩
    simp only [Move.renumber, World.step, hleft, hmore]
    exact hthins.begin hkept .change false
  | raw event =>
    refine ⟨?_, rfl⟩
    simp only [Move.renumber, World.step, h.watcher, hnow]
    exact ⟨hcoordinator, h.resolve, rfl, rfl, h.shared, h.tasks, h.spawned, h.idle⟩
  | rawError text =>
    refine ⟨h, ?_⟩
    simp only [Move.renumber, World.step, h.watcher, thinNotes_outside]
    simp only [World.notes, hnow]
  | settle =>
    simp only [Move.renumber, World.step, h.watcher, hnow]
    split
    · rename_i watcher number _
      refine ⟨⟨hcoordinator, h.resolve, rfl, rfl, h.shared, h.tasks, ?_, h.idle⟩, ?_⟩
      · exact Nat.succ_le_succ h.spawned
      · simp only [thinNotes_outside]
        simp only [World.notes, hnow]
    · exact ⟨h, rfl⟩
  | elapse ms =>
    refine ⟨?_, rfl⟩
    simp only [Move.renumber, World.step, h.clockAfter]
    exact ⟨hcoordinator, h.resolve, h.watcher, rfl, h.shared, h.tasks, h.spawned, h.idle⟩
  | observe observation =>
    exact ⟨⟨hcoordinator, h.resolve, h.watcher, hnow, h.shared, h.tasks, h.spawned, h.idle⟩, rfl⟩
  | remark record =>
    refine ⟨h, ?_⟩
    simp only [Move.renumber, World.step, thinNotes_outside]
    simp only [World.notes, hnow]

end Moves

end World

end ReplicaSync
