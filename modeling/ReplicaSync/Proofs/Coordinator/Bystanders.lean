import ReplicaSync.Proofs.Coordinator.Endurance
import ReplicaSync.Proofs.Coordinator.Refusals

/-!
# Bystanders

A move has one task do something at most, and for the others it is of no account where that task
stands, but for what it leaves in the shared state, on the bus and on the clock. Main statements:
`step_own`, what a move shows of a task; `step_withTask`, that a move leads to the same if one task
is replaced by another one that does the same in it; and `IsOver.silent_run`, that a task which is
over is not heard of again.
-/

namespace ReplicaSync

namespace World

/-- The task of which a move tells, if it tells of any. -/
def mover (world : World) : Move → Option Nat
  | .start _ _ | .callback => some world.tasks.length
  | .answer number _ | .panic number | .drop number | .cancel number | .wake number => some number
  | _ => none

/-- The world with another task in this place. -/
def withTask (world : World) (number : Nat) (task : Task) : World :=
  { world with tasks := world.tasks.set number task }

section Shown

variable {world : World} {number : Nat} {task : Task}

theorem act_shown (htask : world.tasks[number]? = some task) (step : Task → TaskStep) :
    (world.act number step).2 = Note.ofActs world.now number (step task).acts := by
  unfold World.act
  rw [htask]
  rfl

theorem act_ofTask (world : World) (number : Nat) (step : Task → TaskStep) :
    ∀ note ∈ (world.act number step).2, note.task = some number := by
  unfold World.act
  split
  · intro note hmem
    obtain ⟨act, _, rfl⟩ := List.mem_map.mp hmem
    rfl
  · exact List.forall_mem_nil _

theorem notes_ofTask (world : World) (number : Option Nat) (acts : List Act) :
    ∀ note ∈ world.notes number acts, note.task = number := by
  intro note hmem
  obtain ⟨act, _, rfl⟩ := List.mem_map.mp hmem
  rfl

/-- Besides what the task does with an answer, only records of the watcher are shown. -/
theorem answer_shown (htask : world.tasks[number]? = some task) (reply : Answer) :
    ∃ records : List LogRecord, (world.answer number reply).2 =
      Note.ofActs world.now number (records.map .log ++
        (task.resume world.coordinator world.now world.shared reply).acts) := by
  have hact : ∀ watcher, ({ world with watcher }.act number fun task =>
      task.resume world.coordinator world.now world.shared reply).2 =
      Note.ofActs world.now number
        (task.resume world.coordinator world.now world.shared reply).acts :=
    fun watcher => @act_shown { world with watcher } number task htask _
  unfold World.answer
  split
  · obtain ⟨watcher, records, heq⟩ := watchStarted_eq world number
    refine ⟨records, ?_⟩
    simp only [heq, hact watcher]
    exact (List.map_append ..).symm
  · exact ⟨[], hact world.watcher⟩

theorem answer_ofTask (world : World) (number : Nat) (reply : Answer) :
    ∀ note ∈ (world.answer number reply).2, note.task = some number := by
  unfold World.answer
  split
  · obtain ⟨watcher, records, heq⟩ := watchStarted_eq world number
    simp only [heq]
    refine List.forall_mem_append.mpr ⟨notes_ofTask world (some number) _, ?_⟩
    exact act_ofTask { world with watcher } number _
  · exact act_ofTask world number _

theorem begin_ofTask (world : World) (errand : Errand) (cancelled : Bool) :
    ∀ note ∈ (world.begin errand cancelled).2, note.task = some world.tasks.length := by
  rw [begin_eq]
  exact notes_ofTask world (some world.tasks.length) _

/-- All that a move shows, one task has done or none. -/
theorem step_ofMover (world : World) (move : Move) :
    ∀ note ∈ (world.step move).2, note.task = world.mover move := by
  cases move with
  | start errand cancelled => exact begin_ofTask world errand cancelled
  | answer number reply => exact answer_ofTask world number reply
  | panic number | drop number | cancel number | wake number => exact act_ofTask world number _
  | callback =>
    simp only [World.step]
    split
    · exact List.forall_mem_nil _
    · exact begin_ofTask { world with spawned := _ } .change false
  | settle =>
    simp only [World.step]
    split
    · exact notes_ofTask world none _
    · exact List.forall_mem_nil _
  | rawError | remark => exact notes_ofTask world none _
  | raw | elapse | observe => exact List.forall_mem_nil _

theorem step_bystander {move : Move} (h : world.mover move ≠ some number) :
    ∀ note ∈ (world.step move).2, note.task ≠ some number := by
  intro note hmem hown
  apply h
  rw [← step_ofMover world move note hmem, hown]

/-- What a move shows of a task is what it has the task do, after records of the watcher. -/
theorem step_own (htask : world.tasks[number]? = some task) {move : Move}
    (h : world.mover move = some number) :
    ∃ records : List LogRecord, (world.step move).2 =
      Note.ofActs world.now number
        (records.map .log ++ (world.stretch move number task).acts) := by
  have hlt : number < world.tasks.length := (List.getElem?_eq_some_iff.mp htask).1
  cases move with
  | start | callback =>
    have hnew : world.tasks.length = number := Option.some.inj h
    omega
  | answer other reply =>
    cases h
    simp only [stretch, told, if_pos]
    exact answer_shown htask reply
  | panic other | drop other | cancel other | wake other =>
    cases h
    simp only [stretch, told, if_pos]
    exact ⟨[], act_shown htask _⟩
  | raw | rawError | settle | elapse | observe | remark => cases h

/-! ### Tasks that are over -/

theorem IsOver.still (h : world.IsOver number) {move : Move}
    (hmover : world.mover move = some number) : world.step move = (world, []) := by
  obtain ⟨task, ending, htask, hover⟩ := h
  have hlt : number < world.tasks.length := (List.getElem?_eq_some_iff.mp htask).1
  have hact : ∀ step : Task → TaskStep, step task = ⟨world.shared, task, []⟩ →
      world.act number step = (world, []) := by
    intro step hstep
    apply act_over
    intro other hother
    rw [htask] at hother
    cases hother
    exact hstep
  cases move with
  | start | callback =>
    have hnew : world.tasks.length = number := Option.some.inj hmover
    omega
  | answer other reply =>
    cases hmover
    apply answer_over
    intro other hother
    rw [htask] at hother
    cases hother
    exact ⟨ending, hover⟩
  | panic other | drop other =>
    cases hmover
    apply hact
    simp only [Task.abandon, hover]
  | cancel other =>
    cases hmover
    apply hact
    unfold Task.cancel
    rw [hover]
    split <;> simp_all
  | wake other =>
    cases hmover
    apply hact
    simp only [Task.wake, hover]
  | raw | rawError | settle | elapse | observe | remark => cases hmover

theorem IsOver.silent_step (h : world.IsOver number) (move : Move) :
    ∀ note ∈ (world.step move).2, note.task ≠ some number := by
  by_cases hmover : world.mover move = some number
  · rw [h.still hmover]
    exact List.forall_mem_nil _
  · exact step_bystander hmover

theorem IsOver.silent_run (h : world.IsOver number) (moves : List Move) :
    ∀ note ∈ (world.run moves).2, note.task ≠ some number := by
  induction moves generalizing world with
  | nil => exact List.forall_mem_nil _
  | cons move rest ih =>
    rw [run_cons]
    exact List.forall_mem_append.mpr ⟨h.silent_step move, ih (h.step move).1⟩

end Shown

/-! ### Another task in its place -/

section Replaced

variable {world : World} {number : Nat} {task other : Task}

theorem withTask_task? (h : number < world.tasks.length) (task : Task) :
    (world.withTask number task).tasks[number]? = some task :=
  List.getElem?_set_self h

theorem withTask_self (h : world.tasks[number]? = some task) :
    world.withTask number task = world := by
  obtain ⟨hlt, hget⟩ := List.getElem?_eq_some_iff.mp h
  have hset : world.tasks.set number task = world.tasks := by
    rw [← hget]
    exact List.set_getElem_self hlt
  simp only [withTask, hset]

/-- Two tasks in one place compare in a move if they compare in whatever it may have them do. -/
theorem stretch_rel {R : TaskStep → TaskStep → Prop} {move : Move}
    (hstill : R ⟨world.shared, task, []⟩ ⟨world.shared, other, []⟩)
    (hresume : ∀ reply, move = .answer number reply →
      R (task.resume world.coordinator world.now world.shared reply)
        (other.resume world.coordinator world.now world.shared reply))
    (hwake : move = .wake number →
      R (task.wake world.coordinator world.now world.shared)
        (other.wake world.coordinator world.now world.shared))
    (hloss : ∀ ending, move.loss? = some (number, ending) →
      R (task.abandon world.shared ending) (other.abandon world.shared ending))
    (hcancel : move = .cancel number → R (task.cancel world.shared) (other.cancel world.shared)) :
    R (world.stretch move number task) (world.stretch move number other) := by
  have htold : ∀ (place : Nat) (step : Task → TaskStep),
      (place = number → R (step task) (step other)) →
      R (if place = number then step task else ⟨world.shared, task, []⟩)
        (if place = number then step other else ⟨world.shared, other, []⟩) := by
    intro place step hstep
    by_cases hplace : place = number
    · rw [if_pos hplace, if_pos hplace]
      exact hstep hplace
    · rw [if_neg hplace, if_neg hplace]
      exact hstill
  cases move with
  | answer place reply =>
    exact htold place (·.resume world.coordinator world.now world.shared reply) fun hplace =>
      hresume reply (by rw [hplace])
  | wake place =>
    exact htold place (·.wake world.coordinator world.now world.shared) fun hplace =>
      hwake (by rw [hplace])
  | panic place =>
    exact htold place (·.abandon world.shared .panicked) fun hplace =>
      hloss .panicked (by rw [hplace]; rfl)
  | drop place =>
    exact htold place (·.abandon world.shared .aborted) fun hplace =>
      hloss .aborted (by rw [hplace]; rfl)
  | cancel place =>
    exact htold place (·.cancel world.shared) fun hplace => hcancel (by rw [hplace])
  | _ => exact hstill

/-- The stretches leave the same to everybody else. -/
structure Concurs (step other : TaskStep) : Prop where
  shared : other.shared = step.shared
  published : ∀ bus, publish bus other.acts = publish bus step.acts

/-- What a move leads to with one task and with the other one in its place. -/
structure Replaces (time number : Nat) (step other : TaskStep)
    (result replaced : World × List Note) : Prop where
  world : replaced.1 = result.1.withTask number other.task
  notes : ∃ before, result.2 = before ++ Note.ofActs time number step.acts ∧
    replaced.2 = before ++ Note.ofActs time number other.acts

theorem Replaces.still {result : World × List Note} {time : Nat} {shared : Shared}
    {replaced : World × List Note} (hworld : replaced.1 = result.1.withTask number other)
    (hnotes : replaced.2 = result.2) :
    Replaces time number ⟨shared, task, []⟩ ⟨shared, other, []⟩ result replaced :=
  ⟨hworld, result.2, (List.append_nil _).symm, hnotes.trans (List.append_nil _).symm⟩

theorem act_withTask (htask : world.tasks[number]? = some task) (place : Nat)
    (step : Task → TaskStep)
    (h : Concurs (if place = number then step task else ⟨world.shared, task, []⟩)
      (if place = number then step other else ⟨world.shared, other, []⟩)) :
    Replaces world.now number (if place = number then step task else ⟨world.shared, task, []⟩)
      (if place = number then step other else ⟨world.shared, other, []⟩)
      (world.act place step) ((world.withTask number other).act place step) := by
  have hlt : number < world.tasks.length := (List.getElem?_eq_some_iff.mp htask).1
  unfold World.act
  by_cases hplace : place = number
  · subst hplace
    simp only [if_true] at h ⊢
    rw [withTask_task? hlt, htask]
    refine ⟨?_, [], rfl, rfl⟩
    simp only [commit, withTask, h.shared, h.published, List.set_set]
  · simp only [if_neg hplace]
    have hsame : (world.withTask number other).tasks[place]? = world.tasks[place]? :=
      List.getElem?_set_ne (Ne.symm hplace)
    rw [hsame]
    cases world.tasks[place]? with
    | none => exact .still rfl rfl
    | some mover =>
      apply Replaces.still
      · simp only [commit, withTask, List.set_comm _ _ (Ne.symm hplace)]
      · rfl

theorem begin_withTask (htask : world.tasks[number]? = some task) (errand : Errand)
    (cancelled : Bool) :
    Replaces world.now number ⟨world.shared, task, []⟩ ⟨world.shared, other, []⟩
      (world.begin errand cancelled) ((world.withTask number other).begin errand cancelled) := by
  have hlt : number < world.tasks.length := (List.getElem?_eq_some_iff.mp htask).1
  rw [begin_eq, begin_eq]
  apply Replaces.still
  · simp only [withTask, List.set_append_left _ _ hlt]
  · simp only [withTask, List.length_set]

theorem answer_withTask (htask : world.tasks[number]? = some task)
    (hwatching : other.stage = .watching ↔ task.stage = .watching) (place : Nat) (reply : Answer)
    (h : Concurs
      (if place = number then task.resume world.coordinator world.now world.shared reply
        else ⟨world.shared, task, []⟩)
      (if place = number then other.resume world.coordinator world.now world.shared reply
        else ⟨world.shared, other, []⟩)) :
    Replaces world.now number
      (if place = number then task.resume world.coordinator world.now world.shared reply
        else ⟨world.shared, task, []⟩)
      (if place = number then other.resume world.coordinator world.now world.shared reply
        else ⟨world.shared, other, []⟩)
      (world.answer place reply) ((world.withTask number other).answer place reply) := by
  have hlt : number < world.tasks.length := (List.getElem?_eq_some_iff.mp htask).1
  have hresume : ∀ watcher, Replaces world.now number _ _
      ({ world with watcher }.act place fun task =>
        task.resume world.coordinator world.now world.shared reply)
      ({ world.withTask number other with watcher }.act place fun task =>
        task.resume world.coordinator world.now world.shared reply) :=
    fun watcher => @act_withTask { world with watcher } number task other htask place _ h
  have hstage : ((world.withTask number other).tasks[place]?).map Task.stage = some .watching ↔
      (world.tasks[place]?).map Task.stage = some .watching := by
    by_cases hplace : place = number
    · subst hplace
      simp only [withTask_task? hlt, htask, Option.map_some, Option.some.injEq]
      exact hwatching
    · simp only [withTask, List.getElem?_set_ne (Ne.symm hplace)]
  obtain ⟨watcher, records, hstarted, hother⟩ :=
    @watchStarted_congr world (world.withTask number other) rfl rfl rfl place place
  -- only the answer with which the watcher starts changes the world before the task hears it
  by_cases hwatch : (world.tasks[place]?).map Task.stage = some .watching ∧
      reply = .replied (.ok ())
  · obtain ⟨hbefore, rfl⟩ := hwatch
    obtain ⟨hworld, before, hnotes, hothers⟩ := hresume watcher
    simp only [World.answer, hbefore, hstage.mpr hbefore, hstarted, hother]
    refine ⟨hworld, world.notes (some place) (records.map .log) ++ before, ?_, ?_⟩
    · exact (congrArg _ hnotes).trans (List.append_assoc ..).symm
    · exact (congrArg _ hothers).trans (List.append_assoc ..).symm
  · have hplain : ∀ {before : World},
        ((before.tasks[place]?).map Task.stage = some .watching ↔
          (world.tasks[place]?).map Task.stage = some .watching) →
        before.answer place reply = before.act place fun task =>
          task.resume before.coordinator before.now before.shared reply := by
      intro before hsame
      rcases answer_cases before place reply with hact | ⟨⟨task, hbefore, hwatching⟩, hreply⟩
      · exact hact
      · refine (hwatch ⟨hsame.mp ?_, hreply⟩).elim
        rw [hbefore, Option.map_some, hwatching]
    rw [hplain Iff.rfl, hplain hstage]
    exact hresume world.watcher

/-! ### The clock -/

theorem dues_split (htask : world.tasks[number]? = some task) : ∃ before after,
    world.dues = before ++ task.wakeAt?.toList ++ after ∧
      ∀ other, (world.withTask number other).dues = before ++ other.wakeAt?.toList ++ after := by
  obtain ⟨hlt, hget⟩ := List.getElem?_eq_some_iff.mp htask
  have hone : ∀ task : Task, [task].filterMap Task.wakeAt? = task.wakeAt?.toList := by
    intro task
    cases hwakes : task.wakeAt? <;> simp [hwakes]
  have hdues : ∀ other, (world.withTask number other).dues = world.watcher.due?.toList ++
      (world.tasks.take number).filterMap Task.wakeAt? ++ other.wakeAt?.toList ++
        (world.tasks.drop (number + 1)).filterMap Task.wakeAt? := by
    intro other
    simp only [dues, withTask, List.set_eq_take_append_cons_drop, if_pos hlt, List.append_assoc,
      ← hone other, ← List.filterMap_append, List.singleton_append]
  refine ⟨_, _, ?_, hdues⟩
  rw [← hdues task, withTask_self htask]

theorem clockAfter_alike (htask : world.tasks[number]? = some task)
    (hwakes : other.wakeAt? = task.wakeAt?) (ms : Nat) :
    (world.withTask number other).clockAfter ms = world.clockAfter ms := by
  obtain ⟨before, after, hdues, hothers⟩ := dues_split htask
  unfold clockAfter
  rw [hdues, hothers other, hwakes]
  rfl

theorem foldl_min_comm (now bound : Nat) (dues : List Nat) (limit : Nat) :
    dues.foldl (fun limit due => min limit (max due now)) (min limit bound) =
      min (dues.foldl (fun limit due => min limit (max due now)) limit) bound := by
  induction dues generalizing limit with
  | nil => rfl
  | cons due rest ih =>
    rw [List.foldl_cons, List.foldl_cons, ← ih, Nat.min_right_comm]

/-- Without a task that sleeps the clock would go on as it does, unless it stops for this task. -/
theorem clockAfter_awake (htask : world.tasks[number]? = some task) {wakeAt : Nat}
    (hsleeps : task.wakeAt? = some wakeAt) (hawake : other.wakeAt? = none) {ms : Nat}
    (h : world.clockAfter ms < wakeAt) :
    (world.withTask number other).clockAfter ms = world.clockAfter ms := by
  obtain ⟨before, after, hdues, hothers⟩ := dues_split htask
  -- the minimum over all dues is the one over the others and the due of this task
  have hclock : world.clockAfter ms =
      min ((world.withTask number other).clockAfter ms) (max wakeAt world.now) := by
    unfold clockAfter
    rw [hdues, hothers other, hsleeps, hawake, Option.toList_some, Option.toList_none,
      List.append_nil, List.foldl_append, List.foldl_append, List.foldl_append]
    exact foldl_min_comm _ _ _ _
  omega

theorem le_foldl_min (now : Nat) (dues : List Nat) {limit : Nat} (h : now ≤ limit) :
    now ≤ dues.foldl (fun limit due => min limit (max due now)) limit := by
  induction dues generalizing limit with
  | nil => exact h
  | cons due rest ih =>
    apply ih
    exact Nat.le_min.mpr ⟨h, Nat.le_max_right due now⟩

theorem now_le_step (world : World) (move : Move) : world.now ≤ (world.step move).1.now := by
  rcases step_now world move with hsame | ⟨ms, rfl, helapsed⟩
  · exact Nat.le_of_eq hsame.symm
  · rw [helapsed]
    exact le_foldl_min world.now world.dues (Nat.le_add_right world.now ms)

theorem now_le_run (world : World) (moves : List Move) : world.now ≤ (world.run moves).1.now := by
  induction moves generalizing world with
  | nil => exact Nat.le_refl _
  | cons move rest ih => exact Nat.le_trans (now_le_step world move) (ih _)

/-- A move leads to the same for everybody else if a task is replaced by one that leaves the same to
them, and for which the clock stops at the same moment. -/
theorem step_withTask (htask : world.tasks[number]? = some task)
    (hwatching : other.stage = .watching ↔ task.stage = .watching) (move : Move)
    (hclock : ∀ ms, move = .elapse ms →
      (world.withTask number other).clockAfter ms = world.clockAfter ms)
    (h : Concurs (world.stretch move number task) (world.stretch move number other)) :
    Replaces world.now number (world.stretch move number task) (world.stretch move number other)
      (world.step move) ((world.withTask number other).step move) := by
  cases move with
  | start errand cancelled => exact begin_withTask htask errand cancelled
  | answer place reply => exact answer_withTask htask hwatching place reply h
  | panic place => exact act_withTask htask place (·.abandon world.shared .panicked) h
  | drop place => exact act_withTask htask place (·.abandon world.shared .aborted) h
  | cancel place | wake place => exact act_withTask htask place _ h
  | callback =>
    have hspawned : (world.withTask number other).spawned = world.spawned := rfl
    simp only [World.step, hspawned]
    split
    · exact .still rfl rfl
    · rename_i left _
      exact @begin_withTask { world with spawned := left } number task other htask .change false
  | settle =>
    have hsettle : (world.withTask number other).watcher.settle (world.withTask number other).now =
        world.watcher.settle world.now := rfl
    simp only [World.step, hsettle]
    split
    · exact .still rfl rfl
    · exact .still rfl rfl
  | elapse ms =>
    apply Replaces.still
    · simp only [World.step, hclock ms rfl]
      rfl
    · rfl
  | raw | rawError | observe | remark => exact .still rfl rfl

end Replaced

end World

end ReplicaSync
