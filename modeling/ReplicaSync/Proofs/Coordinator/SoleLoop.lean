import ReplicaSync.Proofs.Coordinator.Clock

/-!
# Runs with one loop

The watcher is started by a loop, once for each. So if at most one loop is started, no watch takes
the place of another. Main statements: `sole_run` and `Sole.fresh`.
-/

namespace ReplicaSync

/-- The move starts a loop. -/
def Move.startsLoop : Move → Bool
  | .start errand _ => errand.isLoop
  | _ => false

namespace World

variable {world : World}

/-- So many loops were started; if only one was, there is only one, and it has heard from its
watcher when there is a watch. -/
structure Sole (world : World) (loops : Nat) : Prop where
  none : loops = 0 → ∀ (number : Nat) (task : Task), world.tasks[number]? = some task →
    task.errand.isLoop = false
  sole : loops ≤ 1 → ∀ (i j : Nat) (first second : Task), world.tasks[i]? = some first →
    world.tasks[j]? = some second → first.errand.isLoop = true → second.errand.isLoop = true → i = j
  heard : world.watcher.isRunning = true → ∃ (number : Nat) (task : Task),
    world.tasks[number]? = some task ∧ task.errand.isLoop = true ∧
      task.stage.isListening = false

/-- A watch begins only when there is none. -/
theorem Sole.fresh {loops : Nat} (h : world.Sole loops) (hloops : loops ≤ 1)
    (hworld : world.Timely) {number : Nat} {task : Task}
    (htask : world.tasks[number]? = some task) (hstage : task.stage = .watching) :
    world.watcher.watch = Option.none := by
  cases hwatch : world.watcher.watch with
  | none => rfl
  | some watch =>
    have hrunning : world.watcher.isRunning = true := by
      rw [Watcher.isRunning, hwatch]
      rfl
    have hloop : task.errand.isLoop = true := by
      apply hworld.placed number task htask
      rw [hstage]
      rfl
    -- the loop that has heard of the watch is no other than the one that waits to hear of it
    obtain ⟨other, heard, hother, hotherLoop, hheard⟩ := h.heard hrunning
    have hsame : other = number := h.sole hloops other number heard task hother htask hotherLoop
      hloop
    subst hsame
    rw [hother] at htask
    cases htask
    rw [hstage] at hheard
    cases hheard

theorem begun_isLoop {move : Move} {errand : Errand} {cancelled : Bool}
    (h : world.begun move = some (errand, cancelled)) (hloop : errand.isLoop = true) :
    ∃ flag, move = .start errand flag := by
  unfold begun at h
  split at h
  · cases h
    exact ⟨_, rfl⟩
  · split at h
    · cases h
    · cases h
      cases hloop
  · cases h

/-- A watch runs after a move if it did before, or if a loop has just heard of it. -/
theorem Watches.isRunning {move : Move} {watcher : Watcher} (h : world.Watches move watcher)
    (hrunning : watcher.isRunning = true) :
    world.watcher.isRunning = true ∨ ∃ (number : Nat) (task : Task),
      world.tasks[number]? = some task ∧ task.stage = .watching ∧
        move = .answer number (.replied (.ok ())) := by
  cases h with
  | notices _ watch hwatch | settles watch _ hwatch =>
    refine .inl ?_
    rw [Watcher.isRunning, hwatch]
    rfl
  | starts number task _ htask hstage => exact .inr ⟨number, task, htask, hstage, rfl⟩
  | ignores | stays => exact .inl hrunning

theorem stretch_watching {number : Nat} {task : Task} (hstage : task.stage = .watching)
    (hloop : task.errand.isLoop = true) :
    (world.stretch (.answer number (.replied (.ok ()))) number task).task.stage.isListening =
      false := by
  have hstretch : world.stretch (.answer number (.replied (.ok ()))) number task =
      Task.enterLoop world.coordinator world.now world.shared task
        (Task.watcherStarted world.coordinator.config.localDir (.ok ())) := by
    simp only [stretch, told, if_pos, Task.resume, hstage]
  have hturns : (Task.enterLoop world.coordinator world.now world.shared task
      (Task.watcherStarted world.coordinator.config.localDir (.ok ()))).Turns world.coordinator
        world.now task :=
    enterLoop_turns world.shared (exchanges_watcherStarted _ _) hloop
  rw [hstretch]
  exact hturns.turns.isListening

theorem Sole.step {loops : Nat} (h : world.Sole loops) (hworld : world.Timely) (move : Move) :
    (world.step move).1.Sole (loops + if move.startsLoop then 1 else 0) := by
  -- a loop that is there after the move was there before, or began with it
  have hloops : ∀ (number : Nat) (task : Task), (world.step move).1.tasks[number]? = some task →
      task.errand.isLoop = true →
      (∃ before, world.tasks[number]? = some before ∧ before.errand.isLoop = true) ∨
        move.startsLoop = true ∧ number = world.tasks.length := by
    intro number task htask hloop
    rcases mem_step_tasks htask with
      ⟨before, hbefore, rfl⟩ | ⟨errand, cancelled, hbegun, hnumber, rfl⟩
    · rw [stretch_errand world number (hworld.placed number before hbefore)] at hloop
      exact .inl ⟨before, hbefore, hloop⟩
    · rw [(start_rounds world.shared errand cancelled).errand] at hloop
      obtain ⟨flag, rfl⟩ := begun_isLoop hbegun hloop
      exact .inr ⟨hloop, hnumber⟩
  refine ⟨fun hnone number task htask => ?_, fun hsole i j first second hi hj hfirst hsecond => ?_,
    fun hrunning => ?_⟩
  · cases hloop : task.errand.isLoop with
    | false => rfl
    | true =>
      rcases hloops number task htask hloop with ⟨before, hbefore, hold⟩ | ⟨hstarts, _⟩
      · have hzero : loops = 0 := by omega
        rw [h.none hzero number before hbefore] at hold
        cases hold
      · rw [hstarts, if_pos rfl] at hnone
        omega
  · rcases hloops i first hi hfirst with ⟨a, ha, haLoop⟩ | ⟨hstarts, hnew⟩
    · rcases hloops j second hj hsecond with ⟨b, hb, hbLoop⟩ | ⟨hstarts, _⟩
      · exact h.sole (by omega) i j a b ha hb haLoop hbLoop
      · rw [hstarts, if_pos rfl] at hsole
        rw [h.none (by omega) i a ha] at haLoop
        cases haLoop
    · rcases hloops j second hj hsecond with ⟨b, hb, hbLoop⟩ | ⟨_, hother⟩
      · rw [hstarts, if_pos rfl] at hsole
        rw [h.none (by omega) j b hb] at hbLoop
        cases hbLoop
      · rw [hnew, hother]
  · rcases (step_watcher world move).isRunning hrunning with
      hran | ⟨number, task, htask, hstage, rfl⟩
    · obtain ⟨number, task, htask, hloop, hheard⟩ := h.heard hran
      have hplace := hworld.placed number task htask
      refine ⟨number, _, (step_task htask move).1, ?_, ?_⟩
      · rw [stretch_errand world number hplace, hloop]
      · exact stretch_isListening world number hplace hheard move
    · have hplace := hworld.placed number task htask
      have hloop : task.errand.isLoop = true := hplace (by rw [hstage]; rfl)
      refine ⟨number, _, (step_task htask _).1, ?_, ?_⟩
      · rw [stretch_errand world number hplace, hloop]
      · exact stretch_watching hstage hloop

theorem sole_run (coordinator : Coordinator) (resolve : Option (Path → Option Path))
    (bus : EventBus) (moves : List Move) :
    ((World.new coordinator resolve bus).run moves).1.Sole (moves.countP Move.startsLoop) := by
  induction moves using List.reverseRecOn with
  | nil => exact ⟨fun _ _ _ h => (nomatch h), fun _ _ _ _ _ h => (nomatch h), fun h => (nomatch h)⟩
  | append_singleton moves move ih =>
    rw [run_snoc, List.countP_append, List.countP_singleton]
    exact ih.step (timely_run coordinator resolve bus moves) move

end World

end ReplicaSync
