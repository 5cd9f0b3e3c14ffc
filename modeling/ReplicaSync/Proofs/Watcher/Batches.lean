import Mathlib.Data.List.Chain
import ReplicaSync.Proofs.Coordinator.ChangeRequests
import ReplicaSync.Proofs.Coordinator.SoleLoop
import ReplicaSync.Proofs.Watcher.Bookkeeping

/-!
# Batches of changes

Every change that the watcher sees belongs to one batch. A batch collects changes as long as each of
them comes before the quiet period after the last one is over; then it settles and asks for one
pass. Main statement: `bookkeeping_never_triggers`.
-/

namespace ReplicaSync

/-! ### Batches -/

/-- A change that the watcher sees. -/
structure Change where
  time : Nat
  event : RawEvent

/-- What concerns the batches of a watch. -/
inductive Incident where
  | change (change : Change)
  | settled (time : Nat)

/-- The changes from one settling to the next, and when they settle. -/
structure Batch where
  changes : List Change
  settledAt : Nat

def Batch.incidents (batch : Batch) : List Incident :=
  batch.changes.map .change ++ [.settled batch.settledAt]

/-- Each change comes before the quiet period after the last one is over. -/
def Gathers (quiet : Nat) (changes : List Change) : Prop :=
  changes.IsChain fun earlier later => later.time ≤ earlier.time + quiet

/-- The end of the quiet period that the last change began. -/
def quietAfter? (quiet : Nat) (changes : List Change) : Option Nat :=
  changes.getLast?.map fun last => last.time + quiet

/-- The batch has at least one change, and settles when the quiet period after its last one is
over. -/
structure Batch.Settles (quiet : Nat) (batch : Batch) : Prop where
  gathers : Gathers quiet batch.changes
  settledAt : quietAfter? quiet batch.changes = some batch.settledAt

/-- The incidents are those of the batches that settled and of the one that is being collected,
whose quiet period ends at the time `due?`. -/
structure Batched (quiet : Nat) (incidents : List Incident) (batches : List Batch)
    (current : List Change) (due? : Option Nat) : Prop where
  incidents : incidents = batches.flatMap Batch.incidents ++ current.map .change
  settles : ∀ batch ∈ batches, batch.Settles quiet
  gathers : Gathers quiet current
  due : due? = quietAfter? quiet current

section Batches

variable {quiet now : Nat} {incidents : List Incident} {batches : List Batch}
variable {current : List Change} {due? : Option Nat}

theorem Batched.new (quiet : Nat) : Batched quiet [] [] [] none where
  incidents := rfl
  settles := List.forall_mem_nil _
  gathers := List.isChain_nil
  due := rfl

/-- A change that is not late joins the batch, and the quiet period begins anew. -/
theorem Batched.change (h : Batched quiet incidents batches current due?)
    (hnow : ∀ due, due? = some due → now ≤ due) (event : RawEvent) :
    Batched quiet (incidents ++ [.change ⟨now, event⟩]) batches (current ++ [⟨now, event⟩])
      (some (now + quiet)) where
  incidents := by
    rw [h.incidents, List.map_append, List.append_assoc]
    rfl
  settles := h.settles
  gathers := by
    refine h.gathers.append (List.isChain_singleton _) fun last hlast next hnext => ?_
    cases hnext
    have hdue : due? = some (last.time + quiet) := by
      rw [h.due, quietAfter?, Option.mem_def.mp hlast]
      rfl
    exact hnow _ hdue
  due := by
    rw [quietAfter?, List.getLast?_concat]
    rfl

theorem Batched.settle (h : Batched quiet incidents batches current (some now)) :
    Batched quiet (incidents ++ [.settled now]) (batches ++ [⟨current, now⟩]) [] none where
  incidents := by
    rw [h.incidents, List.flatMap_append, List.flatMap_singleton, Batch.incidents, List.map_nil,
      List.append_nil, List.append_assoc]
  settles := by
    intro batch hmem
    rcases List.mem_append.mp hmem with hold | hnew
    · exact h.settles batch hold
    · rw [List.mem_singleton] at hnew
      subst hnew
      exact ⟨h.gathers, h.due.symm⟩
  gathers := List.isChain_nil
  due := rfl

end Batches

/-! ### Incidents of a run -/

namespace World

/-- What the watcher sees of a move: a change, if it watches and the report is no bookkeeping, or
that a batch settles. -/
def incident? (world : World) (resolve : Path → Option Path) (move : Move) : Option Incident :=
  match move with
  | .raw event =>
    if world.watcher.isRunning &&
        !event.isBookkeeping resolve world.coordinator.config.ignoredPaths then
      some (.change ⟨world.now, event⟩)
    else none
  | _ => if world.settles move then some (.settled world.now) else none

/-- The incidents of a run, in their order. -/
def incidents (world : World) (resolve : Path → Option Path) : List Move → List Incident
  | [] => []
  | move :: rest =>
    (world.incident? resolve move).toList ++ (world.step move).1.incidents resolve rest

theorem incidents_snoc (world : World) (resolve : Path → Option Path) (moves : List Move)
    (move : Move) :
    world.incidents resolve (moves ++ [move]) =
      world.incidents resolve moves ++ ((world.run moves).1.incident? resolve move).toList := by
  induction moves generalizing world with
  | nil => simp [incidents, run]
  | cons first rest ih =>
    rw [List.cons_append, incidents, incidents, ih, List.append_assoc]
    rfl

/-- What a move does to the batches. -/
inductive Collects (world : World) (resolve : Path → Option Path) (move : Move)
    (watcher : Watcher) : Prop where
  | change (event : RawEvent)
      (hincident : world.incident? resolve move = some (.change ⟨world.now, event⟩))
      (hsettles : world.settles move = false)
      (hdue : watcher.due? = some (world.now + world.coordinator.config.debounce.ticks))
  | settled (hincident : world.incident? resolve move = some (.settled world.now))
      (hsettles : world.settles move = true) (hbefore : world.watcher.due? = some world.now)
      (hdue : watcher.due? = none)
  | nothing (hincident : world.incident? resolve move = none)
      (hsettles : world.settles move = false) (hdue : watcher.due? = world.watcher.due?)

variable {world : World} {resolve : Path → Option Path}

/-- If a watch begins only when there is none, no batch is lost in a move. -/
theorem step_collects (hworld : world.Timely) (hguards : world.Guards resolve)
    (hfresh : ∀ (number : Nat) (task : Task), world.tasks[number]? = some task →
      task.stage = .watching → world.watcher.watch = none) (move : Move) :
    world.Collects resolve move (world.step move).1.watcher := by
  have hwatches := step_watcher world move
  generalize (world.step move).1.watcher = watcher at hwatches ⊢
  cases hwatches with
  | ignores event hignores =>
    refine .nothing ?_ rfl rfl
    cases hwatch : world.watcher.watch with
    | none => simp [incident?, Watcher.isRunning, hwatch]
    | some watch =>
      have hirrelevant := hignores watch hwatch
      rw [hguards.ignored watch hwatch, isRelevant_withResolved] at hirrelevant
      simp [incident?, hirrelevant]
  | notices event watch hwatch hrelevant =>
    rw [hguards.ignored watch hwatch, isRelevant_withResolved] at hrelevant
    refine .change event ?_ rfl ?_
    · simp [incident?, Watcher.isRunning, hwatch, hrelevant]
    · rw [← hguards.debounce]
      rfl
  | settles watch due hwatch hdue hover hsettle =>
    have hsettles : world.settles .settle = true := by
      rw [settles, hsettle]
      rfl
    have hbefore : world.watcher.due? = some due := by
      rw [Watcher.due?, hwatch]
      exact hdue
    -- the clock does not pass over the end of the quiet period
    have hnow : world.now ≤ due := hworld.dues due (mem_dues.mpr (.inl hbefore))
    have htime : due = world.now := by omega
    refine .settled ?_ hsettles (htime ▸ hbefore) rfl
    simp only [incident?, hsettles, if_true]
  | starts number task other htask hstage =>
    refine .nothing rfl rfl ?_
    rw [Watcher.due?, Watcher.due?, hfresh number task htask hstage]
    rfl
  | stays _ hraw hsettle =>
    have hnone : world.settles move = false := by
      cases move with
      | settle =>
        rw [settles, hsettle rfl]
        rfl
      | _ => rfl
    refine .nothing ?_ hnone rfl
    cases move with
    | raw event => exact (hraw event rfl).elim
    | _ => simp only [incident?, hnone, Bool.false_eq_true, if_false]

end World

/-! ### Runs -/

namespace World

variable {world : World} {resolve : Path → Option Path}

theorem Collects.batched {move : Move} {watcher : Watcher} {incidents : List Incident}
    {batches : List Batch} {current : List Change}
    (h : world.Collects resolve move watcher) (hworld : world.Timely)
    (hbatched : Batched world.coordinator.config.debounce.ticks incidents batches current
      world.watcher.due?) :
    ∃ batches' current',
      Batched world.coordinator.config.debounce.ticks
        (incidents ++ (world.incident? resolve move).toList) batches' current' watcher.due? ∧
      batches'.length = batches.length + if world.settles move then 1 else 0 := by
  cases h with
  | change event hincident hsettles hdue =>
    rw [hincident, hsettles, hdue]
    refine ⟨batches, current ++ [⟨world.now, event⟩], ?_, rfl⟩
    exact hbatched.change (fun due hrunning => hworld.dues due (mem_dues.mpr (.inl hrunning))) event
  | settled hincident hsettles hbefore hdue =>
    rw [hbefore] at hbatched
    rw [hincident, hsettles, hdue]
    refine ⟨batches ++ [Batch.mk current world.now], [], hbatched.settle, ?_⟩
    rw [List.length_append]
    rfl
  | nothing hincident hsettles hdue =>
    rw [hincident, hsettles, hdue, Option.toList_none, List.append_nil]
    exact ⟨batches, current, hbatched, rfl⟩

/-- In a run with at most one loop every change belongs to a batch, and the requests because of
changed files, with those still to come, are as many as the batches that settled and the tasks that
were started to make one. -/
theorem batched_run (coordinator : Coordinator) (resolve : Path → Option Path) (bus : EventBus)
    (moves : List Move) (hloops : moves.countP Move.startsLoop ≤ 1) :
    let start := World.new coordinator (some resolve) bus
    ∃ batches current,
      Batched coordinator.config.debounce.ticks (start.incidents resolve moves) batches current
        (start.run moves).1.watcher.due? ∧
      changeRequests (start.run moves).2 + (start.run moves).1.spawned =
        batches.length + moves.countP Move.asksForChange := by
  intro start
  induction moves using List.reverseRecOn with
  | nil => exact ⟨[], [], .new _, rfl⟩
  | append_singleton moves move ih =>
    have hbefore : moves.countP Move.startsLoop ≤ 1 := by
      rw [List.countP_append] at hloops
      omega
    have hworld : (start.run moves).1.Timely := timely_run coordinator (some resolve) bus moves
    have hsole : (start.run moves).1.Sole (moves.countP Move.startsLoop) :=
      sole_run coordinator (some resolve) bus moves
    have hcollects := step_collects hworld (guards_run coordinator resolve bus moves)
      (fun _ _ htask hstage => hsole.fresh hbefore hworld htask hstage) move
    have hcoordinator : (start.run moves).1.coordinator = coordinator :=
      run_coordinator start moves
    have hasked := step_asked hworld move
    obtain ⟨batches, current, hbatched, hcount⟩ := ih hbefore
    rw [← hcoordinator] at hbatched
    obtain ⟨batches', current', hafter, hlength⟩ := hcollects.batched hworld hbatched
    rw [hcoordinator] at hafter
    refine ⟨batches', current', ?_, ?_⟩
    · rw [incidents_snoc, run_snoc]
      exact hafter
    · rw [run_snoc, changeRequests_append, List.countP_append, List.countP_singleton, hlength]
      show changeRequests (start.run moves).2 + changeRequests ((start.run moves).1.step move).2 +
        ((start.run moves).1.step move).1.spawned = _
      omega

end World

/-- In every run of a coordinator with the watcher for the desktop, the reports about the program's
own bookkeeping may be left out: the same happens without them. If at most one loop is started,
every other change that the watcher sees belongs to one batch, or to the one that is being
collected; each batch that settled asks for exactly one pass. -/
theorem bookkeeping_never_triggers (coordinator : Coordinator) (resolve : Path → Option Path)
    (bus : EventBus) (moves : List Move) :
    let start := World.new coordinator (some resolve) bus
    let own := coordinator.config.ignoredPaths
    start.run (moves.filter fun move => !move.isNoise resolve own) = start.run moves ∧
    (moves.countP Move.startsLoop ≤ 1 → ∃ batches current,
      Batched coordinator.config.debounce.ticks (start.incidents resolve moves) batches current
        (start.run moves).1.watcher.due? ∧
      changeRequests (start.run moves).2 + (start.run moves).1.spawned =
        batches.length + moves.countP Move.asksForChange) :=
  ⟨(World.Guards.new coordinator resolve bus).run_filter moves,
    World.batched_run coordinator resolve bus moves⟩

end ReplicaSync
