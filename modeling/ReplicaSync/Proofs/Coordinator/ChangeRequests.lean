import ReplicaSync.Proofs.Coordinator.Clock

/-!
# Requests because of changed files

Such a request is made by a task that was started for it, or by a callback that a settled batch had
spawned; each of them makes one. Main statement: `step_asked`, which accounts for them.
-/

namespace ReplicaSync

/-- The move starts a task that asks for a pass because of changed files. -/
def Move.asksForChange : Move → Bool
  | .start errand _ => errand.trigger = .fileChange
  | _ => false

/-- The act asks for a pass because of changed files. -/
def Act.asksForChange (act : Act) : Bool := act = .request .fileChange

/-- The number of requests because of changed files. -/
def changeRequests (notes : List Note) : Nat := notes.countP (·.act.asksForChange)

theorem changeRequests_append (a b : List Note) :
    changeRequests (a ++ b) = changeRequests a + changeRequests b :=
  List.countP_append

theorem changeRequests_ofActs (time number : Nat) (acts : List Act) :
    changeRequests (Note.ofActs time number acts) =
      (exchanges acts).countP Act.asksForChange := by
  rw [changeRequests, Note.ofActs, List.countP_map, exchanges, List.countP_filter]
  refine List.countP_congr fun act _ => ?_
  cases act with
  | request | settle => simp [Act.isExchange]
  | _ => simp [Act.asksForChange]

theorem changeRequests_log (world : World) (task : Option Nat) (records : List LogRecord) :
    changeRequests (world.notes task (records.map .log)) = 0 := by
  rw [changeRequests, World.notes, List.map_map, List.countP_map, List.countP_eq_zero]
  intro record _
  simp [Act.asksForChange]

section Asked

variable {coordinator : Coordinator} {now : Nat} {errand : Errand} {cancelled : Bool}
variable {acts : List Act}

/-- A task asks once, for its own trigger. -/
theorem Turn.asked {after : Stage} (h : Turn coordinator now errand cancelled acts after) :
    acts.countP Act.asksForChange = if errand.trigger = .fileChange then 1 else 0 := by
  cases h with
  | stops hloop =>
    rw [Errand.trigger_of_isLoop hloop]
    rfl
  | enters flight =>
    rw [List.countP_singleton]
    simp [Act.asksForChange]
  | refused outcome =>
    rw [List.countP_cons, List.countP_singleton]
    simp [Act.asksForChange]

/-- A task that was there before asks for no pass because of changed files. -/
theorem Round.asked {before after : Stage}
    (h : Round coordinator now errand cancelled before acts after)
    (hplace : before.ofLoop = true → errand.isLoop = true) :
    acts.countP Act.asksForChange = 0 := by
  cases h with
  | waits | listens | flies => rfl
  | turns _ _ _ hmay hturn =>
    have hloop : errand.isLoop = true := by
      apply hplace
      cases before with
      | ready | subscribing | watching | sleeping => rfl
      | flying | «over» => cases hmay
    rw [hturn.asked, Errand.trigger_of_isLoop hloop]
    rfl
  | answered => rfl

theorem start_asked (shared : Shared) (errand : Errand) (cancelled : Bool) :
    (exchanges (Task.start coordinator now shared errand cancelled).acts).countP
      Act.asksForChange = if errand.trigger = .fileChange then 1 else 0 := by
  cases hloop : errand.isLoop with
  | false => exact (start_turns shared cancelled hloop).turns.asked
  | true =>
    rw [(start_rounds shared errand cancelled).round.asked fun _ => hloop,
      Errand.trigger_of_isLoop hloop]
    rfl

end Asked

namespace World

variable {world : World}

/-- A batch settles in this move. -/
def settles (world : World) : Move → Bool
  | .settle => (world.watcher.settle world.now).2.isSome
  | _ => false

theorem begin_asked (world : World) (errand : Errand) (cancelled : Bool) :
    changeRequests (world.begin errand cancelled).2 =
      if errand.trigger = .fileChange then 1 else 0 :=
  (changeRequests_ofActs _ _ _).trans (start_asked world.shared errand cancelled)

theorem act_asked {number : Nat} {step : Task → TaskStep}
    (h : ∀ task, world.tasks[number]? = some task →
      (exchanges (step task).acts).countP Act.asksForChange = 0) :
    changeRequests (world.act number step).2 = 0 ∧
      (world.act number step).1.spawned = world.spawned := by
  unfold World.act
  cases htask : world.tasks[number]? with
  | none => exact ⟨rfl, rfl⟩
  | some task => exact ⟨(changeRequests_ofActs _ _ _).trans (h task htask), rfl⟩

theorem answer_asked (hworld : world.Timely) (number : Nat) (reply : Answer) :
    changeRequests (world.answer number reply).2 = 0 ∧
      (world.answer number reply).1.spawned = world.spawned := by
  have hresume : ∀ watcher, changeRequests ({ world with watcher }.act number fun task =>
        task.resume world.coordinator world.now world.shared reply).2 = 0 ∧
      ({ world with watcher }.act number fun task =>
        task.resume world.coordinator world.now world.shared reply).1.spawned = world.spawned := by
    intro watcher
    refine act_asked fun task htask => ?_
    have hplace := hworld.placed number task htask
    exact (resume_rounds world.shared reply hplace).round.asked hplace
  unfold World.answer
  split
  · obtain ⟨watcher, records, heq⟩ := watchStarted_eq world number
    obtain ⟨hnone, hspawned⟩ := hresume watcher
    simp only [heq]
    refine ⟨?_, hspawned⟩
    rw [changeRequests_append, changeRequests_log, Nat.zero_add]
    exact hnone
  · exact hresume world.watcher

theorem settle_asked (world : World) :
    changeRequests (world.step .settle).2 + (world.step .settle).1.spawned =
      world.spawned + if world.settles .settle then 1 else 0 := by
  have hsettles : world.settles .settle = (world.watcher.settle world.now).2.isSome := rfl
  simp only [World.step]
  split
  · rename_i watcher number hsettle
    have hnone : changeRequests (world.notes none [.log Watcher.settled]) = 0 :=
      changeRequests_log world none [Watcher.settled]
    rw [hsettles, hsettle]
    show changeRequests (world.notes none [.log Watcher.settled]) + (world.spawned + 1) = _
    rw [hnone, Nat.zero_add]
    rfl
  · rename_i watcher hsettle
    rw [hsettles, hsettle]
    exact Nat.zero_add _

theorem callback_asked (world : World) :
    changeRequests (world.step .callback).2 + (world.step .callback).1.spawned =
      world.spawned := by
  simp only [World.step]
  split
  · exact Nat.zero_add _
  · rename_i left hspawned
    have hasked : changeRequests ({ world with spawned := left }.begin .change false).2 = 1 :=
      begin_asked _ .change false
    have hleft : ({ world with spawned := left }.begin .change false).1.spawned = left := rfl
    omega

/-- Each batch that settles asks once, when its callback begins. -/
theorem step_asked (hworld : world.Timely) (move : Move) :
    changeRequests (world.step move).2 + (world.step move).1.spawned =
      world.spawned + (if world.settles move then 1 else 0) +
        if move.asksForChange then 1 else 0 := by
  have hact : ∀ (number : Nat) (step : Task → TaskStep), (∀ task,
      world.tasks[number]? = some task →
        (exchanges (step task).acts).countP Act.asksForChange = 0) →
      changeRequests (world.act number step).2 + (world.act number step).1.spawned =
        world.spawned := by
    intro number step hstep
    obtain ⟨hnone, hspawned⟩ := act_asked hstep
    omega
  have hquiet : ∀ step : TaskStep, exchanges step.acts = [] →
      (exchanges step.acts).countP Act.asksForChange = 0 := by
    intro step hstep
    rw [hstep]
    rfl
  have hlog : ∀ records : List LogRecord,
      changeRequests (world.notes none (records.map .log)) + world.spawned = world.spawned := by
    intro records
    rw [changeRequests_log, Nat.zero_add]
  cases move with
  | start errand cancelled =>
    have hbegin := begin_asked world errand cancelled
    have hspawned : (world.begin errand cancelled).1.spawned = world.spawned := rfl
    simp only [World.step, settles, Move.asksForChange, decide_eq_true_eq]
    rw [hbegin, hspawned]
    exact Nat.add_comm _ _
  | answer number reply =>
    obtain ⟨hnone, hspawned⟩ := answer_asked hworld number reply
    show changeRequests (world.answer number reply).2 + (world.answer number reply).1.spawned = _
    rw [hnone, hspawned, Nat.zero_add]
    rfl
  | panic number =>
    exact hact number _ fun task _ => hquiet _ (abandon_loses world.shared task .panicked).quiet
  | drop number =>
    exact hact number _ fun task _ => hquiet _ (abandon_loses world.shared task .aborted).quiet
  | cancel number =>
    exact hact number _ fun task _ => hquiet _ (cancel_cancels world.shared task).quiet
  | wake number =>
    refine hact number _ fun task htask => ?_
    have hplace := hworld.placed number task htask
    exact (wake_rounds world.shared hplace).round.asked hplace
  | settle => exact settle_asked world
  | callback => exact callback_asked world
  | rawError text => exact hlog _
  | remark record => exact hlog [record]
  | raw | elapse | observe => exact Nat.zero_add _

end World

end ReplicaSync
