import ReplicaSync.Proofs.Coordinator.Round

/-!
# Moves as one task sees them

A move has at most one task do something and begins at most one task; the others stay as they are
and show nothing. Main statements: `step_task` and `step_noTask`, and `stretch_cases`, that a task
goes on by a round unless it is lost or cancelled.
-/

namespace ReplicaSync

/-- The task that is lost in a move, and how it ends. -/
def Move.loss? : Move → Option (Nat × Ending)
  | .panic number => some (number, .panicked)
  | .drop number => some (number, .aborted)
  | _ => none

namespace World

/-- The task that a move has do something, and what. -/
def told (world : World) : Move → Option (Nat × (Task → TaskStep))
  | .answer number answer =>
    some (number, (·.resume world.coordinator world.now world.shared answer))
  | .panic number => some (number, (·.abandon world.shared .panicked))
  | .drop number => some (number, (·.abandon world.shared .aborted))
  | .cancel number => some (number, (·.cancel world.shared))
  | .wake number => some (number, (·.wake world.coordinator world.now world.shared))
  | _ => none

/-- The task that begins with a move. -/
def begun (world : World) : Move → Option (Errand × Bool)
  | .start errand cancelled => some (errand, cancelled)
  | .callback => if world.spawned = 0 then none else some (.change, false)
  | _ => none

/-- What a move has a task do. -/
def stretch (world : World) (move : Move) (number : Nat) (task : Task) : TaskStep :=
  match world.told move with
  | some (other, step) => if other = number then step task else ⟨world.shared, task, []⟩
  | none => ⟨world.shared, task, []⟩

/-- After this move the task is where the stretch leaves it, and its requests and answers in the
move are those of the stretch. -/
def Has (result : World × List Note) (time number : Nat) (step : TaskStep) : Prop :=
  result.1.tasks[number]? = some step.task ∧
    exchangesOf number result.2 = Note.ofActs time number (exchanges step.acts)

/-- There is no such task after this move. -/
def Lacks (result : World × List Note) (number : Nat) : Prop :=
  result.1.tasks[number]? = none ∧ exchangesOf number result.2 = []

variable {world : World} {number : Nat} {task : Task}

theorem has_still {result : World × List Note} (htask : world.tasks[number]? = some task)
    (htasks : result.1.tasks = world.tasks) (hnotes : exchangesOf number result.2 = []) :
    Has result world.now number ⟨world.shared, task, []⟩ :=
  ⟨htasks ▸ htask, hnotes⟩

theorem has_commit {tasks : List Task} (hnumber : number < tasks.length) (step : TaskStep) :
    Has ({ world with tasks }.commit number step) world.now number step := by
  refine ⟨?_, exchangesOf_ofActs _ _ _⟩
  show (tasks.set number step.task)[number]? = _
  rw [List.getElem?_set_self hnumber]

theorem has_act (htask : world.tasks[number]? = some task) (other : Nat)
    (step : Task → TaskStep) :
    Has (world.act other step) world.now number
      (if other = number then step task else ⟨world.shared, task, []⟩) := by
  have hnumber : number < world.tasks.length := (List.getElem?_eq_some_iff.mp htask).1
  unfold World.act
  by_cases hother : other = number
  · subst hother
    rw [if_pos rfl, htask]
    exact has_commit hnumber (step task)
  · rw [if_neg hother]
    split
    · refine ⟨?_, exchangesOf_ofActs_other hother _ _⟩
      show (world.tasks.set other _)[number]? = _
      rw [List.getElem?_set_ne hother, htask]
    · exact has_still htask rfl rfl

theorem lacks_act (htask : world.tasks[number]? = none) (other : Nat)
    (step : Task → TaskStep) : Lacks (world.act other step) number := by
  have hlength : world.tasks.length ≤ number := List.getElem?_eq_none_iff.mp htask
  unfold World.act
  split
  · rename_i hother
    have hlt : other < world.tasks.length := (List.getElem?_eq_some_iff.mp hother).1
    have hne : other ≠ number := by omega
    refine ⟨?_, exchangesOf_ofActs_other hne _ _⟩
    show (world.tasks.set other _)[number]? = _
    rw [List.getElem?_set_ne hne, htask]
  · exact ⟨htask, rfl⟩

theorem has_begin (htask : world.tasks[number]? = some task) (errand : Errand)
    (cancelled : Bool) :
    Has (world.begin errand cancelled) world.now number ⟨world.shared, task, []⟩ := by
  have hnumber : number < world.tasks.length := (List.getElem?_eq_some_iff.mp htask).1
  have hne : world.tasks.length ≠ number := Nat.ne_of_gt hnumber
  refine ⟨?_, exchangesOf_ofActs_other hne _ _⟩
  show ((world.tasks ++ _).set world.tasks.length _)[number]? = _
  rw [List.getElem?_set_ne hne, List.getElem?_append_left hnumber, htask]

theorem begin_new (world : World) (errand : Errand) (cancelled : Bool) :
    Has (world.begin errand cancelled) world.now world.tasks.length
      (Task.start world.coordinator world.now world.shared errand cancelled) :=
  has_commit (by simp) _

theorem lacks_begin (hnumber : world.tasks.length < number) (errand : Errand)
    (cancelled : Bool) : Lacks (world.begin errand cancelled) number := by
  refine ⟨?_, exchangesOf_ofActs_other (Nat.ne_of_lt hnumber) _ _⟩
  show ((world.tasks ++ _).set world.tasks.length _)[number]? = _
  rw [List.getElem?_eq_none_iff, List.length_set, List.length_append]
  exact hnumber

theorem has_answer (htask : world.tasks[number]? = some task) (other : Nat) (reply : Answer) :
    Has (world.answer other reply) world.now number
      (if other = number then
        task.resume world.coordinator world.now world.shared reply
      else ⟨world.shared, task, []⟩) := by
  have hresume : ∀ watcher, Has ({ world with watcher }.act other fun task =>
      task.resume world.coordinator world.now world.shared reply) world.now number
      (if other = number then
        task.resume world.coordinator world.now world.shared reply
      else ⟨world.shared, task, []⟩) :=
    fun watcher => @has_act { world with watcher } number task htask other _
  unfold World.answer
  split
  -- a watch that is started touches no task, and only records tell of it
  · obtain ⟨watcher, records, heq⟩ := watchStarted_eq world other
    obtain ⟨htasks, hnotes⟩ := hresume watcher
    simp only [heq]
    refine ⟨htasks, ?_⟩
    rw [exchangesOf_append, exchangesOf_log, List.nil_append]
    exact hnotes
  · exact hresume world.watcher

theorem lacks_answer (htask : world.tasks[number]? = none) (other : Nat) (reply : Answer) :
    Lacks (world.answer other reply) number := by
  have hresume : ∀ watcher, Lacks ({ world with watcher }.act other fun task =>
      task.resume world.coordinator world.now world.shared reply) number :=
    fun watcher => @lacks_act { world with watcher } number htask other _
  unfold World.answer
  split
  · obtain ⟨watcher, records, heq⟩ := watchStarted_eq world other
    obtain ⟨htasks, hnotes⟩ := hresume watcher
    simp only [heq]
    refine ⟨htasks, ?_⟩
    rw [exchangesOf_append, exchangesOf_log, List.nil_append]
    exact hnotes
  · exact hresume world.watcher

theorem step_task (htask : world.tasks[number]? = some task) (move : Move) :
    Has (world.step move) world.now number (world.stretch move number task) := by
  cases move with
  | start errand cancelled => exact has_begin htask errand cancelled
  | answer other answer => exact has_answer htask other answer
  | panic other | drop other | cancel other | wake other => exact has_act htask other _
  | rawError text => exact has_still htask rfl (exchangesOf_log _ _ _ _)
  | settle =>
    simp only [World.step]
    split
    · exact has_still htask rfl (exchangesOf_log _ _ _ [Watcher.settled])
    · exact has_still htask rfl rfl
  | callback =>
    simp only [World.step]
    split
    · exact has_still htask rfl rfl
    · exact @has_begin { world with spawned := _ } number task htask .change false
  | remark record => exact has_still htask rfl (exchangesOf_log _ _ _ [record])
  | raw | elapse | observe => exact has_still htask rfl rfl

/-- A task that was not there is not there, or has run its first stretch. -/
theorem step_noTask (htask : world.tasks[number]? = none) (move : Move) :
    Lacks (world.step move) number ∨
      ∃ errand cancelled, world.begun move = some (errand, cancelled) ∧
        number = world.tasks.length ∧
        Has (world.step move) world.now number
          (Task.start world.coordinator world.now world.shared errand cancelled) := by
  have hlength : world.tasks.length ≤ number := List.getElem?_eq_none_iff.mp htask
  have hbegin : ∀ spawned errand cancelled,
      Lacks ({ world with spawned }.begin errand cancelled) number ∨
        number = world.tasks.length ∧
          Has ({ world with spawned }.begin errand cancelled) world.now number
            (Task.start world.coordinator world.now world.shared errand cancelled) := by
    intro spawned errand cancelled
    rcases Nat.eq_or_lt_of_le hlength with rfl | hlt
    · exact .inr ⟨rfl, begin_new { world with spawned } errand cancelled⟩
    · exact .inl (@lacks_begin { world with spawned } number hlt errand cancelled)
  cases move with
  | start errand cancelled =>
    exact (hbegin world.spawned errand cancelled).imp_right fun hnew =>
      ⟨errand, cancelled, rfl, hnew⟩
  | callback =>
    simp only [World.step, begun]
    split
    · exact .inl ⟨htask, rfl⟩
    · rename_i left hspawned
      refine (hbegin left .change false).imp_right fun hnew => ⟨.change, false, ?_, hnew⟩
      rw [hspawned]
      rfl
  | answer other answer => exact .inl (lacks_answer htask other answer)
  | panic other | drop other | cancel other | wake other => exact .inl (lacks_act htask other _)
  | rawError text => exact .inl ⟨htask, exchangesOf_log _ _ _ _⟩
  | settle =>
    simp only [World.step]
    split
    · exact .inl ⟨htask, exchangesOf_log _ _ _ [Watcher.settled]⟩
    · exact .inl ⟨htask, rfl⟩
  | remark record => exact .inl ⟨htask, exchangesOf_log _ _ _ [record]⟩
  | raw | elapse | observe => exact .inl ⟨htask, rfl⟩

theorem stretch_loses {move : Move} {ending : Ending} (task : Task)
    (h : move.loss? = some (number, ending)) :
    (world.stretch move number task).Loses task ending := by
  unfold Move.loss? at h
  split at h
  · cases h
    simp only [stretch, told, if_pos]
    exact abandon_loses world.shared task .panicked
  · cases h
    simp only [stretch, told, if_pos]
    exact abandon_loses world.shared task .aborted
  · cases h

/-- Whatever a move has a task do is a round, unless the task is lost or cancelled. -/
theorem stretch_cases (world : World) (number : Nat)
    (hplace : task.stage.ofLoop = true → task.errand.isLoop = true) (move : Move) :
    (world.stretch move number task).Rounds world.coordinator world.now task ∨
      (∃ ending, move.loss? = some (number, ending)) ∨
      move = .cancel number ∧ (world.stretch move number task).Cancels task := by
  have hstill : (TaskStep.mk world.shared task []).Rounds world.coordinator world.now task :=
    rounds_still _
  cases move with
  | answer other reply =>
    simp only [stretch, told]
    split
    · exact .inl (resume_rounds world.shared reply hplace)
    · exact .inl hstill
  | wake other =>
    simp only [stretch, told]
    split
    · exact .inl (wake_rounds world.shared hplace)
    · exact .inl hstill
  | panic other | drop other =>
    simp only [stretch, told]
    split
    · rename_i hother
      subst hother
      exact .inr (.inl ⟨_, rfl⟩)
    · exact .inl hstill
  | cancel other =>
    simp only [stretch, told]
    split
    · rename_i hother
      subst hother
      exact .inr (.inr ⟨rfl, cancel_cancels _ _⟩)
    · exact .inl hstill
  | _ => exact .inl hstill

theorem stretch_isListening (world : World) (number : Nat)
    (hplace : task.stage.ofLoop = true → task.errand.isLoop = true)
    (hheard : task.stage.isListening = false) (move : Move) :
    (world.stretch move number task).task.stage.isListening = false := by
  rcases world.stretch_cases number hplace move with hround | ⟨ending, hloss⟩ | ⟨_, hcancel⟩
  · exact hround.round.isListening hheard
  · rcases (stretch_loses task hloss).stage with hover | ⟨hsame, _⟩
    · rw [hover]
      rfl
    · rw [hsame, hheard]
  · rcases hcancel.stage with ⟨hsame, _⟩ | ⟨_, hover, _⟩
    · rw [hsame, hheard]
    · rw [hover]
      rfl

theorem stretch_errand (world : World) (number : Nat)
    (hplace : task.stage.ofLoop = true → task.errand.isLoop = true) (move : Move) :
    (world.stretch move number task).task.errand = task.errand := by
  rcases world.stretch_cases number hplace move with hround | ⟨ending, hloss⟩ | ⟨_, hcancel⟩
  · exact hround.errand
  · exact (stretch_loses task hloss).errand
  · exact hcancel.errand

end World

end ReplicaSync
