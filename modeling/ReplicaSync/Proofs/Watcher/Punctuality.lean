import ReplicaSync.Proofs.Coordinator.Bystanders
import ReplicaSync.Proofs.Watcher.Batches
import ReplicaSync.Proofs.Watcher.Stints

/-!
# Batches on time

What a watch reports is told by the times of its changes alone: one callback for each batch whose
quiet period is over, at the end of that quiet period. The callbacks of a coordinator are tasks that
ask for passes; however long these take, the batches settle as if nobody listened. Main statement:
`batches_settle_exactly`.
-/

namespace ReplicaSync

/-! ### In a run of a coordinator -/

/-- The time of a change. -/
def Incident.changeAt? : Incident → Option Nat
  | .change seen => some seen.time
  | .settled _ => none

/-- The time at which a batch settled. -/
def Incident.settledAt? : Incident → Option Nat
  | .change _ => none
  | .settled time => some time

namespace World

/-- The clock of the watch. -/
def quietClock (world : World) : QuietClock := ⟨world.watcher.due?, world.now⟩

/-- The batch of the watch settles at this very moment, and the move reports something before. -/
def preempts (world : World) : Move → Bool
  | .raw _ => world.watcher.due? = some world.now
  | _ => false

/-- Nothing is reported at the moment at which a batch settles before it has settled. -/
def settlesFirst (world : World) : List Move → Bool
  | [] => true
  | move :: rest => !world.preempts move && (world.step move).1.settlesFirst rest

theorem settlesFirst_snoc (world : World) (moves : List Move) (move : Move) :
    world.settlesFirst (moves ++ [move]) =
      (world.settlesFirst moves && !(world.run moves).1.preempts move) := by
  induction moves generalizing world with
  | nil => simp [settlesFirst, run]
  | cons first rest ih =>
    rw [List.cons_append, settlesFirst, settlesFirst, ih, Bool.and_assoc]
    rfl

variable {world : World} {resolve : Path → Option Path}

/-- If a watch begins only when there is none, its batches settle on time. -/
theorem Collects.punctual {move : Move}
    (h : world.Collects resolve move (world.step move).1.watcher) (hworld : world.Timely)
    (hfirst : world.preempts move = false) :
    Punctual world.coordinator.config.debounce.ticks world.quietClock
      ((world.incident? resolve move).toList.filterMap Incident.changeAt?)
      ((world.incident? resolve move).toList.filterMap Incident.settledAt?)
      (world.step move).1.quietClock := by
  cases h with
  | change event hincident hsettles hdue =>
    have hraw : ∃ other, move = .raw other := by
      cases move with
      | raw other => exact ⟨other, rfl⟩
      | _ => simp [incident?, hsettles] at hincident
    obtain ⟨other, rfl⟩ := hraw
    have hearly : ∀ due, world.watcher.due? = some due → world.now < due := by
      intro due hrunning
      have hle : world.now ≤ due := hworld.dues due (mem_dues.mpr (.inl hrunning))
      have hne : due ≠ world.now := fun heq => of_decide_eq_false hfirst (heq ▸ hrunning)
      omega
    have hclock : (world.step (.raw other)).1.quietClock =
        ⟨some (world.now + world.coordinator.config.debounce.ticks), world.now⟩ := by
      rw [quietClock, hdue]
      rfl
    rw [hincident, hclock]
    exact .change hearly (.done _)
  | settled hincident hsettles hbefore hdue =>
    have hnow : (world.step move).1.now = world.now := by
      rcases step_now world move with hsame | ⟨ms, rfl, _⟩
      · exact hsame
      · cases hsettles
    rw [hincident, quietClock, quietClock, hbefore, hdue, hnow]
    exact .settles (.done _)
  | nothing hincident hsettles hdue =>
    rw [hincident, quietClock, quietClock, hdue]
    refine .passes (now_le_step world move) (fun due hrunning => ?_) (.done _)
    exact (hworld.step move).dues due (mem_dues.mpr (.inl (hdue.trans hrunning)))

theorem punctual_run (coordinator : Coordinator) (resolve : Path → Option Path) (bus : EventBus)
    {moves : List Move} (hloops : moves.countP Move.startsLoop ≤ 1)
    (hfirst : (World.new coordinator (some resolve) bus).settlesFirst moves = true) :
    let start := World.new coordinator (some resolve) bus
    Punctual coordinator.config.debounce.ticks ⟨none, 0⟩
      ((start.incidents resolve moves).filterMap Incident.changeAt?)
      ((start.incidents resolve moves).filterMap Incident.settledAt?)
      (start.run moves).1.quietClock := by
  intro start
  induction moves using List.reverseRecOn with
  | nil => exact .done _
  | append_singleton moves move ih =>
    have hbefore : moves.countP Move.startsLoop ≤ 1 := by
      rw [List.countP_append] at hloops
      omega
    have hworld : (start.run moves).1.Timely := timely_run coordinator (some resolve) bus moves
    have hsole : (start.run moves).1.Sole (moves.countP Move.startsLoop) :=
      sole_run coordinator (some resolve) bus moves
    have hcollects := step_collects hworld (guards_run coordinator resolve bus moves)
      (fun _ _ htask hstage => hsole.fresh hbefore hworld htask hstage) move
    rw [settlesFirst_snoc, Bool.and_eq_true, Bool.not_eq_true'] at hfirst
    have hmove := hcollects.punctual hworld hfirst.2
    rw [run_coordinator] at hmove
    rw [incidents_snoc, List.filterMap_append, List.filterMap_append, run_snoc]
    exact (ih hbefore hfirst.1).trans hmove

end World

theorem settledAt_incidents (batches : List Batch) (current : List Change) :
    (batches.flatMap Batch.incidents ++ current.map Incident.change).filterMap
      Incident.settledAt? = batches.map (·.settledAt) := by
  have hnone : ∀ changes : List Change,
      (changes.map Incident.change).filterMap Incident.settledAt? = [] := by
    intro changes
    rw [List.filterMap_map]
    exact List.filterMap_eq_nil_iff.mpr fun _ _ => rfl
  rw [List.filterMap_append, hnone, List.append_nil, List.filterMap_flatMap, List.map_eq_flatMap]
  refine List.flatMap_congr fun batch _ => ?_
  rw [Batch.incidents, List.filterMap_append, hnone]
  rfl

/-- A watch that has begun spawns its callback once for each batch of changes whose quiet period is
over, at the end of that quiet period, and at no other time, as long as it is neither stopped nor
replaced; the batches are the changes that it takes in, cut wherever the gap is at least the quiet
period. The same holds in every run of a coordinator in which one loop starts the watcher, whatever
its tasks do and however long they take: all these batches have settled but for one that may settle
at this very moment, and each of them spawns one callback. -/
theorem batches_settle_exactly :
    (∀ (debounce : Duration) (disk : Disk) (before during : List WatcherInstruction) (root : Path)
        (ignored : List Path),
      let earlier := (WatcherRehearsal.new debounce disk).after before
      let r := (earlier.carryOut (.start root ignored)).1
      earlier.faults = .none → r.keepsWatch during = true →
        r.firings during =
          ((quietEnds debounce.ticks (r.changes during)).filter (· ≤ (r.after during).now)).map
            (⟨·, earlier.starts⟩)) ∧
      ∀ (coordinator : Coordinator) (resolve : Path → Option Path) (bus : EventBus)
        (moves : List Move),
        let start := World.new coordinator (some resolve) bus
        let world := (start.run moves).1
        let changes := (start.incidents resolve moves).filterMap Incident.changeAt?
        let settled := (start.incidents resolve moves).filterMap Incident.settledAt?
        moves.countP Move.startsLoop ≤ 1 → start.settlesFirst moves = true →
          settled ++ world.watcher.due?.toList.filter (· ≤ world.now) =
              (quietEnds coordinator.config.debounce.ticks changes).filter (· ≤ world.now) ∧
            changeRequests (start.run moves).2 + world.spawned =
              settled.length + moves.countP Move.asksForChange := by
  constructor
  · intro debounce disk before during root ignored earlier r hfaults hkeeps
    exact WatcherRehearsal.firings_begun debounce disk before root ignored hfaults hkeeps
  · intro coordinator resolve bus moves start world changes settled hloops hfirst
    have hpunctual := World.punctual_run coordinator resolve bus hloops hfirst
    obtain ⟨batches, current, hbatched, hcount⟩ :=
      World.batched_run coordinator resolve bus moves hloops
    refine ⟨@Punctual.settled_eq _ _ _ _ _ hpunctual none rfl fun _ hmem =>
      (Option.some_ne_none _ hmem.symm).elim, ?_⟩
    have hsettled : settled = batches.map (·.settledAt) := by
      rw [← settledAt_incidents batches current, ← hbatched.incidents]
    rw [hsettled, List.length_map]
    exact hcount

/-- A coordinator with a watcher, whose loop has done its first pass and sleeps. -/
def Coordinator.watchful : Coordinator :=
  { Coordinator.withInterval (.ofMillis 60000) with hasWatcher := true }

/-- Two batches settle; the callback of the first one still waits for its pull. -/
def twoBatches : List Move :=
  [.start (.loop false) false, .answer 0 (.replied (.ok ())), .answer 0 (.pulled (.ok .noChanges)),
    .answer 0 (.pushed (.ok .noChanges)), .raw someChange, .elapse 3000, .settle, .callback,
    .raw someChange, .elapse 1000, .raw someChange, .elapse 3000, .settle]

/-- A gap of exactly the quiet period cuts, a shorter one does not; changes at one instant are one
batch. -/
theorem batches_settle_exactly_gapped :
    ((WatcherRehearsal.new (.ofMillis 100) ⟨[]⟩).carryOut (.start ⟨[Path.slash]⟩ [])).1.firings
        [.raw someChange, .advance 100, .raw someChange, .raw someChange, .advance 60,
          .raw someChange, .advance 500] = [⟨100, 0⟩, ⟨260, 0⟩] ∧
      ((World.new .watchful (some fun _ => none) (.new .standard)).incidents (fun _ => none)
        twoBatches).filterMap Incident.settledAt? = [3000, 7000] := by
  constructor
  · have hfirings := batches_settle_exactly.1 (.ofMillis 100) ⟨[]⟩ []
      [.raw someChange, .advance 100, .raw someChange, .raw someChange, .advance 60,
        .raw someChange, .advance 500] ⟨[Path.slash]⟩ [] rfl (by decide +kernel)
    exact hfirings.trans (by decide +kernel)
  · have hsettled := (batches_settle_exactly.2 .watchful (fun _ => none) (.new .standard)
      twoBatches (by decide +kernel) (by decide +kernel)).1
    have hnone : ((World.new .watchful (some fun _ => none) (.new .standard)).run
        twoBatches).1.watcher.due? = none := by decide +kernel
    rw [hnone, Option.toList_none, List.filter_nil, List.append_nil] at hsettled
    rw [hsettled]
    decide +kernel

end ReplicaSync
