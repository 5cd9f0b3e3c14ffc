import Mathlib.Data.List.Induction
import ReplicaSync.Proofs.Coordinator.Stretch

/-!
# Courses

Every move of a run is a leg, so a run is a course from leg to leg, beginning with a gate that
nobody owns. Main statements: `step_leg`, that a world which shows a situation shows the next one
after a move, and `course_induction`, by which everything about the signals of a run is proved.
-/

namespace ReplicaSync

/-- The flight of a task, if the task is there and owns the gate. -/
def World.flight? (world : World) (number : Nat) : Option Flight :=
  (world.tasks[number]?).bind Task.flight?

/-- The world is in this situation. -/
structure World.Shows (world : World) (airspace : Airspace) : Prop where
  shared : world.shared = airspace.shared
  flight? : ∀ number, world.flight? number = airspace.flight? number

/-- The request of this task was let in and has not given the gate back. -/
def World.Owns (world : World) (number : Nat) : Prop :=
  ∃ flight, world.flight? number = some flight

theorem World.Shows.owns_iff {world : World} {airspace : Airspace} (h : world.Shows airspace)
    (number : Nat) :
    world.Owns number ↔ ∃ owner, airspace = .taken owner ∧ owner.number = number := by
  unfold World.Owns
  rw [h.flight? number]
  constructor
  · rintro ⟨flight, hflight⟩
    obtain ⟨owner, hairspace, hnumber, _⟩ := flight?_eq_some hflight
    exact ⟨owner, hairspace, hnumber⟩
  · rintro ⟨owner, rfl, rfl⟩
    exact ⟨owner.flight, by simp [Airspace.flight?]⟩

/-- The answer that the owner of the gate hears in a move. -/
def Airspace.hears (airspace : Airspace) : Move → Option Answer
  | .answer number answer => airspace.heard number answer
  | _ => none

/-- A move is a leg, to the situation that is there afterwards. -/
def World.Flies (coordinator : Coordinator) (airspace : Airspace) (heard : Option Answer)
    (time : Nat) (result : World × List Note) : Prop :=
  ∃ number acts after, Leg coordinator airspace heard number acts after ∧
    Note.signals result.2 = Note.ofActs time number acts ∧ result.1.Shows after

theorem Leg.frame {coordinator : Coordinator} {before after : Airspace} {heard : Option Answer}
    {number : Nat} {acts : List Act} (h : Leg coordinator before heard number acts after)
    (other : Nat) (hother : other ≠ number) : after.flight? other = before.flight? other := by
  cases h with
  | quiet | leave | refuse => rfl
  | enter => simp only [Airspace.flight?, if_neg hother.symm]
  | pulled | uploaded | followUp | land | abandon =>
    simp only [Airspace.flight?, if_neg hother.symm]

namespace World

variable {coordinator : Coordinator} {airspace : Airspace} {world : World}

/-- A move that changes nothing of the shared state and no task, and shows no signal. -/
theorem flies_quiet (h : world.Shows airspace) (result : World × List Note)
    (hshared : result.1.shared = world.shared) (htasks : result.1.tasks = world.tasks)
    (hnotes : Note.signals result.2 = []) (time : Nat) :
    Flies coordinator airspace none time result := by
  refine ⟨0, [], airspace, .quiet _ _ _ fun _ _ _ hheard => (nomatch hheard), hnotes, ?_⟩
  refine ⟨hshared.trans h.shared, fun number => ?_⟩
  rw [← h.flight? number, World.flight?, World.flight?, htasks]

theorem flies_commit {number : Nat} {step : TaskStep} {heard : Option Answer}
    (hnumber : number < world.tasks.length)
    (hframe : ∀ other, other ≠ number → world.flight? other = airspace.flight? other)
    (hstep : step.Follows coordinator airspace heard number) :
    Flies coordinator airspace heard world.now (world.commit number step) := by
  obtain ⟨after, hleg, hshared, hflight⟩ := hstep
  refine ⟨number, signals step.acts, after, hleg, Note.signals_ofActs _ _ _, hshared, ?_⟩
  intro other
  by_cases hother : other = number
  · subst hother
    simp only [World.flight?, World.commit, List.getElem?_set_self hnumber, Option.bind_some]
    exact hflight
  · have hsame := hframe other hother
    rw [hleg.frame other hother, ← hsame]
    simp only [World.flight?, World.commit, List.getElem?_set_ne (Ne.symm hother)]

theorem flies_act (h : world.Shows airspace) (number : Nat) (step : Task → TaskStep)
    (heard : Option Answer) (hheard : airspace.flight? number = none → heard = none)
    (hstep : ∀ task, world.tasks[number]? = some task →
      (step task).Follows coordinator airspace heard number) :
    Flies coordinator airspace heard world.now (world.act number step) := by
  unfold World.act
  cases htask : world.tasks[number]? with
  | none =>
    have hnone : airspace.flight? number = none := by
      rw [← h.flight? number, World.flight?, htask]
      rfl
    rw [hheard hnone]
    exact flies_quiet h _ rfl rfl rfl _
  | some task =>
    have hnumber : number < world.tasks.length := (List.getElem?_eq_some_iff.mp htask).1
    exact flies_commit hnumber (fun other _ => h.flight? other) (hstep task htask)

theorem task_flight? (h : world.Shows airspace) {number : Nat} {task : Task}
    (htask : world.tasks[number]? = some task) : task.flight? = airspace.flight? number := by
  rw [← h.flight? number, World.flight?, htask]
  rfl

theorem flies_begin (h : world.Shows airspace) (errand : Errand) (cancelled : Bool)
    (hcoordinator : world.coordinator = coordinator) :
    Flies coordinator airspace none world.now (world.begin errand cancelled) := by
  subst hcoordinator
  have hnew : airspace.flight? world.tasks.length = none := by
    rw [← h.flight? world.tasks.length, World.flight?, List.getElem?_eq_none (Nat.le_refl _)]
    rfl
  have hstep : (Task.start world.coordinator world.now airspace.shared errand cancelled).Follows
      world.coordinator airspace none world.tasks.length := start_follows errand cancelled hnew
  rw [← h.shared] at hstep
  have hlength : world.tasks.length < (world.tasks ++ [(Task.start world.coordinator world.now
      world.shared errand cancelled).task]).length := by simp
  refine flies_commit hlength ?_ hstep
  intro other hother
  rw [← h.flight? other]
  simp only [World.flight?]
  by_cases hlt : other < world.tasks.length
  · rw [List.getElem?_append_left hlt]
  · have hlarge : world.tasks.length < other := by omega
    rw [List.getElem?_eq_none (by simp; omega), List.getElem?_eq_none (by omega)]

theorem signals_log (number : Option Nat) (records : List LogRecord) :
    Note.signals (world.notes number (records.map .log)) = [] := by
  simp [Note.signals, World.notes]

/-- Starting a watch changes the watcher alone, and only records tell of it. -/
theorem watchStarted_eq (world : World) (number : Nat) :
    ∃ (watcher : Watcher) (records : List LogRecord), world.watchStarted number =
      ({ world with watcher }, world.notes (some number) (records.map .log)) := by
  unfold World.watchStarted
  split
  · exact ⟨world.watcher, [], rfl⟩
  · simp only
    split
    · exact ⟨_, _, rfl⟩
    · exact ⟨world.watcher, [], rfl⟩

theorem flies_answer (h : world.Shows airspace) (number : Nat) (answer : Answer)
    (hcoordinator : world.coordinator = coordinator) :
    Flies coordinator airspace (airspace.heard number answer) world.now
      (world.answer number answer) := by
  subst hcoordinator
  have hresume : ∀ watcher, Flies world.coordinator airspace (airspace.heard number answer)
      world.now ({ world with watcher }.act number fun task =>
        task.resume world.coordinator world.now world.shared answer) := by
    intro watcher
    have hshows : { world with watcher }.Shows airspace := ⟨h.shared, h.flight?⟩
    refine flies_act hshows number _ _ ?_ ?_
    · intro hnone
      simp [Airspace.heard, hnone]
    · intro task htask
      rw [h.shared]
      exact resume_follows answer (task_flight? h htask)
  unfold World.answer
  split
  · obtain ⟨watcher, records, heq⟩ := watchStarted_eq world number
    simp only [heq]
    obtain ⟨mover, acts, after, hleg, hnotes, hafter⟩ := hresume watcher
    refine ⟨mover, acts, after, hleg, ?_, hafter⟩
    rw [Note.signals_append, signals_log, List.nil_append]
    exact hnotes
  · exact hresume world.watcher

/-! ### Moves -/

theorem step_leg (h : world.Shows airspace) (move : Move) :
    Flies world.coordinator airspace (airspace.hears move) world.now (world.step move) := by
  cases move with
  | start errand cancelled => exact flies_begin h errand cancelled rfl
  | answer number answer => exact flies_answer h number answer rfl
  | panic number =>
    refine flies_act h number _ none (fun _ => rfl) fun task htask => ?_
    rw [h.shared]
    exact abandon_follows .panicked rfl (task_flight? h htask)
  | drop number =>
    refine flies_act h number _ none (fun _ => rfl) fun task htask => ?_
    rw [h.shared]
    exact abandon_follows .aborted rfl (task_flight? h htask)
  | cancel number =>
    refine flies_act h number _ none (fun _ => rfl) fun task htask => ?_
    rw [h.shared]
    exact cancel_follows (task_flight? h htask)
  | wake number =>
    refine flies_act h number _ none (fun _ => rfl) fun task htask => ?_
    rw [h.shared]
    exact wake_follows (task_flight? h htask)
  | raw event => exact flies_quiet h _ rfl rfl rfl _
  | rawError text => exact flies_quiet h _ rfl rfl (signals_log _ _) _
  | settle =>
    simp only [World.step]
    split
    · exact flies_quiet h _ rfl rfl rfl _
    · exact flies_quiet h _ rfl rfl rfl _
  | callback =>
    simp only [World.step]
    split
    · exact flies_quiet h _ rfl rfl rfl _
    · rename_i left _
      have hshows : { world with spawned := left }.Shows airspace := ⟨h.shared, h.flight?⟩
      exact flies_begin hshows .change false rfl
  | elapse ms => exact flies_quiet h _ rfl rfl rfl _
  | observe observation => exact flies_quiet h _ rfl rfl rfl _
  | remark record => exact flies_quiet h _ rfl rfl rfl _

theorem act_keeps (world : World) (number : Nat) (step : Task → TaskStep) :
    ∃ shared tasks bus, (world.act number step).1 = { world with shared, tasks, bus } := by
  unfold World.act
  split
  · exact ⟨_, _, _, rfl⟩
  · exact ⟨world.shared, world.tasks, world.bus, rfl⟩

theorem answer_keeps (world : World) (number : Nat) (reply : Answer) :
    ∃ shared tasks watcher bus,
      (world.answer number reply).1 = { world with shared, tasks, watcher, bus } := by
  unfold World.answer
  split
  · obtain ⟨watcher, records, heq⟩ := watchStarted_eq world number
    simp only [heq]
    obtain ⟨shared, tasks, bus, hact⟩ := act_keeps { world with watcher } number _
    exact ⟨shared, tasks, watcher, bus, hact⟩
  · obtain ⟨shared, tasks, bus, hact⟩ := act_keeps world number _
    exact ⟨shared, tasks, world.watcher, bus, hact⟩

/-- No move changes how the coordinator was built. -/
theorem step_built (world : World) (move : Move) :
    (world.step move).1.coordinator = world.coordinator ∧
      (world.step move).1.resolve = world.resolve := by
  have hact : ∀ number step, (world.act number step).1.coordinator = world.coordinator ∧
      (world.act number step).1.resolve = world.resolve := by
    intro number step
    obtain ⟨shared, tasks, bus, hact⟩ := act_keeps world number step
    rw [hact]
    exact ⟨rfl, rfl⟩
  cases move with
  | answer number reply =>
    obtain ⟨shared, tasks, watcher, bus, hanswer⟩ := answer_keeps world number reply
    simp only [World.step, hanswer, and_self]
  | panic number | drop number | cancel number | wake number => exact hact number _
  | settle | callback =>
    simp only [World.step]
    split <;> exact ⟨rfl, rfl⟩
  | start | raw | rawError | elapse | observe | remark => exact ⟨rfl, rfl⟩

theorem step_coordinator (world : World) (move : Move) :
    (world.step move).1.coordinator = world.coordinator :=
  (step_built world move).1

theorem run_coordinator (world : World) (moves : List Move) :
    (world.run moves).1.coordinator = world.coordinator := by
  induction moves generalizing world with
  | nil => rfl
  | cons move rest ih => exact (ih _).trans (step_coordinator world move)

/-! ### Runs -/

theorem new_shows (coordinator : Coordinator) (resolve : Option (Path → Option Path))
    (bus : EventBus) : (World.new coordinator resolve bus).Shows (.clear 0) :=
  ⟨rfl, fun _ => rfl⟩

theorem run_cons (world : World) (move : Move) (rest : List Move) :
    world.run (move :: rest) =
      (((world.step move).1.run rest).1,
        (world.step move).2 ++ ((world.step move).1.run rest).2) :=
  rfl

theorem run_snoc (world : World) (moves : List Move) (move : Move) :
    world.run (moves ++ [move]) =
      (((world.run moves).1.step move).1,
        (world.run moves).2 ++ ((world.run moves).1.step move).2) := by
  rw [World.run_append]
  simp [World.run]

/-- Whatever holds of a course that has not begun, and of a course with one more leg if it held
before, holds of the signals of every run. -/
theorem course_induction {P : List Move → List Note → Airspace → Prop}
    (coordinator : Coordinator) (resolve : Option (Path → Option Path)) (bus : EventBus)
    (hnew : P [] [] (.clear 0))
    (hleg : ∀ moves move notes airspace time number acts after,
      ((World.new coordinator resolve bus).run moves).1.Shows airspace →
      Leg coordinator airspace (airspace.hears move) number acts after →
      P moves notes airspace →
      P (moves ++ [move]) (notes ++ Note.ofActs time number acts) after)
    (moves : List Move) :
    ∃ airspace, ((World.new coordinator resolve bus).run moves).1.Shows airspace ∧
      P moves (Note.signals ((World.new coordinator resolve bus).run moves).2) airspace := by
  -- a run is continued at its end, so the induction is on the moves from last to first
  induction moves using List.reverseRecOn with
  | nil => exact ⟨.clear 0, new_shows coordinator resolve bus, hnew⟩
  | append_singleton moves move ih =>
    obtain ⟨airspace, hshows, hcourse⟩ := ih
    obtain ⟨number, acts, after, hstep, hnotes, hafter⟩ := step_leg hshows move
    rw [run_coordinator] at hstep
    refine ⟨after, ?_, ?_⟩
    · rw [run_snoc]
      exact hafter
    · rw [run_snoc, Note.signals_append, hnotes]
      exact hleg _ _ _ _ _ _ _ _ hshows hstep hcourse

end World

end ReplicaSync
