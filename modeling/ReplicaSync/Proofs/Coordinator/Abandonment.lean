import ReplicaSync.Proofs.Coordinator.Bystanders

/-!
# Passes that are given up

The owner of the gate can go away wherever it waits: in a phase, in an announcement, in its first
pass or in a later one, with a pass owed or without. The gate is free then, and what was owed is
forgotten; nobody else notices, and the next request is let in and runs the next pass. Main
statement: `abandoned_pass`.
-/

namespace ReplicaSync

/-! ### The next request -/

/-- From a gate that nobody owns a request is let in, or nothing of passes happens. -/
theorem Leg.of_clear {coordinator : Coordinator} {passes : Nat} {after : Airspace}
    {heard : Option Answer} {number : Nat} {acts : List Act}
    (h : Leg coordinator (.clear passes) heard number acts after) :
    (after = .clear passes ∧ ∀ trigger, .request trigger ∉ acts) ∨
      ∃ trigger,
        acts = [.request trigger, .event (.started (passes + 1) trigger.label), .call .pull] ∧
          after = .taken ⟨number, trigger, 1, passes + 1, .pulling, false⟩ := by
  cases h with
  | quiet => exact .inl ⟨rfl, fun _ => List.not_mem_nil⟩
  | leave => exact .inl ⟨rfl, by simp⟩
  | enter _ _ trigger => exact .inr ⟨trigger, rfl, rfl⟩

/-- A task that is no loop makes its request when it turns to it. -/
theorem Turn.asks {coordinator : Coordinator} {now : Nat} {errand : Errand} {cancelled : Bool}
    {acts : List Act} {after : Stage} (h : Turn coordinator now errand cancelled acts after)
    (hloop : errand.isLoop = false) : .request errand.trigger ∈ acts := by
  cases h with
  | stops hother =>
    rw [hloop] at hother
    cases hother
  | enters | refused => exact List.mem_cons_self

namespace World

variable {world : World} {airspace : Airspace}

/-- The pass is not named again. -/
theorem Shows.names_later {passId : Nat} (h : world.Shows airspace)
    (hpast : airspace.IsPast passId) (moves : List Move) :
    ∀ note ∈ (world.run moves).2, note.act.passId? ≠ some passId := by
  induction moves generalizing world airspace with
  | nil => exact List.forall_mem_nil _
  | cons move rest ih =>
    obtain ⟨number, acts, after, hleg, hnotes, hafter⟩ := step_leg h move
    obtain ⟨hlater, hacts⟩ := hleg.names_later hpast
    rw [run_cons]
    refine List.forall_mem_append.mpr ⟨fun note hmem => ?_, ih hafter hlater⟩
    cases hsignal : note.act.isSignal with
    | false =>
      rw [Act.passId?_eq_none hsignal]
      exact (Option.some_ne_none passId).symm
    | true =>
      rw [← Note.mem_signals hsignal, hnotes] at hmem
      obtain ⟨act, hact, rfl⟩ := List.mem_map.mp hmem
      exact hacts act hact

/-- Nobody makes a request in these notes. -/
def Unasked (notes : List Note) : Prop := ∀ note ∈ notes, ∀ trigger, note.act ≠ .request trigger

/-- The gate stays free until somebody makes a request. -/
theorem Shows.stays_clear {passes : Nat} (h : world.Shows (.clear passes)) {moves : List Move}
    (hunasked : Unasked (world.run moves).2) : (world.run moves).1.Shows (.clear passes) := by
  induction moves generalizing world with
  | nil => exact h
  | cons move rest ih =>
    obtain ⟨number, acts, after, hleg, hnotes, hafter⟩ := step_leg h move
    rw [run_cons] at hunasked
    obtain ⟨hfirst, hrest⟩ := List.forall_mem_append.mp hunasked
    rcases hleg.of_clear with ⟨rfl, _⟩ | ⟨trigger, rfl, _⟩
    · exact ih hafter hrest
    · have hasked : ⟨world.now, some number, .request trigger⟩ ∈ (world.step move).2 := by
        rw [← Note.mem_signals rfl, hnotes]
        exact Note.mem_ofActs.mpr ⟨rfl, rfl, List.mem_cons_self⟩
      exact (hfirst _ hasked trigger rfl).elim

/-- A request that is made next is let in, and runs the pass after so many. -/
def AdmitsNext (world : World) (passes : Nat) : Prop :=
  ∀ move time number trigger, ⟨time, some number, .request trigger⟩ ∈ (world.step move).2 →
    Note.signals (world.step move).2 = Note.ofActs time number
      [.request trigger, .event (.started (passes + 1) trigger.label), .call .pull] ∧
    (world.step move).1.flight? number = some ⟨trigger, ⟨false⟩, 1, passes + 1, .pulling⟩

theorem Shows.admitsNext {passes : Nat} (h : world.Shows (.clear passes)) :
    world.AdmitsNext passes := by
  intro move time number trigger hasked
  obtain ⟨mover, acts, after, hleg, hnotes, hafter⟩ := step_leg h move
  rw [← Note.mem_signals rfl, hnotes] at hasked
  obtain ⟨rfl, rfl, hmem⟩ := Note.mem_ofActs.mp hasked
  rcases hleg.of_clear with ⟨_, hnone⟩ | ⟨other, rfl, rfl⟩
  · exact (hnone trigger hmem).elim
  · have htrigger : trigger = other := by simpa using hmem
    subst htrigger
    refine ⟨hnotes, ?_⟩
    rw [hafter.flight? number]
    exact if_pos rfl

/-- A request that is started is made at once. -/
theorem start_asks (world : World) (trigger : Trigger) (cancelled : Bool) :
    ⟨world.now, some world.tasks.length, .request trigger⟩ ∈
      (world.step (.start (.request trigger) cancelled)).2 := by
  have hturns : (Task.start world.coordinator world.now world.shared (.request trigger)
      cancelled).Turns world.coordinator world.now ⟨.request trigger, cancelled, .ready⟩ :=
    start_turns world.shared cancelled rfl
  have hact := (List.mem_filter.mp (hturns.turns.asks rfl)).1
  simp only [World.step, begin_eq]
  exact Note.mem_ofActs.mpr ⟨rfl, rfl, hact⟩

/-- If the owner of the gate goes away the gate is free, and nothing else changes. -/
theorem step_abandoned (h : world.Shows airspace) {number : Nat} {flight : Flight}
    (howns : world.flight? number = some flight) {move : Move} {ending : Ending}
    (hloss : move.loss? = some (number, ending)) :
    ∃ task, world.tasks[number]? = some task ∧ world.step move =
      ({ world with
          shared := ⟨.new, flight.passId⟩
          tasks := world.tasks.set number { task with stage := .over ending } },
        [⟨world.now, some number, .finish ending⟩]) := by
  obtain ⟨task, htask, hflies⟩ := Option.bind_eq_some_iff.mp howns
  have hstage : task.stage = .flying flight := by
    unfold Task.flight? at hflies
    split at hflies
    · cases hflies
      assumption
    · cases hflies
  rw [h.flight? number] at howns
  obtain ⟨owner, rfl, rfl, rfl⟩ := flight?_eq_some howns
  have habandon : task.abandon world.shared ending =
      ⟨⟨.new, owner.passId⟩, { task with stage := .over ending }, [.finish ending]⟩ := by
    rw [h.shared]
    simp only [Task.abandon, hstage]
    rfl
  refine ⟨task, htask, ?_⟩
  cases move with
  | panic | drop =>
    cases hloss
    simp only [World.step, World.act, htask, habandon]
    rfl
  | _ => cases hloss

theorem Shows.abandoned (h : world.Shows airspace) {number : Nat} {flight : Flight}
    (howns : world.flight? number = some flight) {move : Move} {ending : Ending}
    (hloss : move.loss? = some (number, ending)) :
    (world.step move).1.Shows (.clear flight.passId) ∧ (world.step move).1.IsOver number := by
  obtain ⟨task, htask, hstep⟩ := step_abandoned h howns hloss
  have hlt : number < world.tasks.length := (List.getElem?_eq_some_iff.mp htask).1
  have hself : (world.step move).1.tasks[number]? = some { task with stage := .over ending } := by
    rw [hstep]
    exact List.getElem?_set_self hlt
  refine ⟨⟨by rw [hstep]; rfl, fun other => ?_⟩, ⟨_, ending, hself, rfl⟩⟩
  rw [h.flight? number] at howns
  obtain ⟨owner, rfl, rfl, rfl⟩ := flight?_eq_some howns
  by_cases hother : owner.number = other
  · subst hother
    rw [World.flight?, hself]
    rfl
  · have hsame : (world.step move).1.flight? other = world.flight? other := by
      rw [hstep]
      simp only [World.flight?, List.getElem?_set_ne hother]
    rw [hsame, h.flight? other]
    exact if_neg hother

theorem shows_run (coordinator : Coordinator) (resolve : Option (Path → Option Path))
    (bus : EventBus) (moves : List Move) :
    ∃ airspace, ((World.new coordinator resolve bus).run moves).1.Shows airspace := by
  obtain ⟨airspace, hshows, -⟩ := course_induction coordinator resolve bus
    (P := fun _ _ _ => True) trivial (fun _ _ _ _ _ _ _ _ _ _ _ => trivial) moves
  exact ⟨airspace, hshows⟩

end World

/-- Wherever the owner of the gate waits, if it panics or is dropped there, the gate is free and
owes nothing, its task is over, and nothing else changes and nothing else is shown. However the run
goes on, that task shows nothing more and the pass is not named again; and the next request, whoever
makes it and whenever, is let in and runs the pass with the next number. -/
theorem abandoned_pass (coordinator : Coordinator) (resolve : Option (Path → Option Path))
    (bus : EventBus) (moves : List Move) (number : Nat) (flight : Flight)
    (howns : ((World.new coordinator resolve bus).run moves).1.flight? number = some flight)
    (move : Move) (ending : Ending) (hloss : move.loss? = some (number, ending)) :
    let before := ((World.new coordinator resolve bus).run moves).1
    let after := (before.step move).1
    (∃ task, before.tasks[number]? = some task ∧ before.step move =
      ({ before with
          shared := ⟨.new, flight.passId⟩
          tasks := before.tasks.set number { task with stage := .over ending } },
        [⟨before.now, some number, .finish ending⟩])) ∧
    ∀ more,
      (∀ note ∈ (after.run more).2,
        note.task ≠ some number ∧ note.act.passId? ≠ some flight.passId) ∧
      (World.Unasked (after.run more).2 →
        (after.run more).1.shared = ⟨.new, flight.passId⟩ ∧
        (after.run more).1.AdmitsNext flight.passId ∧
        ∀ trigger cancelled,
          ⟨(after.run more).1.now, some (after.run more).1.tasks.length, .request trigger⟩ ∈
            ((after.run more).1.step (.start (.request trigger) cancelled)).2) := by
  intro before after
  obtain ⟨airspace, hshows⟩ := World.shows_run coordinator resolve bus moves
  obtain ⟨hclear, hover⟩ := hshows.abandoned howns hloss
  refine ⟨World.step_abandoned hshows howns hloss, fun more => ⟨fun note hmem => ?_, ?_⟩⟩
  · have hpast : (Airspace.clear flight.passId).IsPast flight.passId := Nat.le_refl _
    exact ⟨hover.silent_run more note hmem, hclear.names_later hpast more note hmem⟩
  · intro hunasked
    have hlater := hclear.stays_clear hunasked
    exact ⟨hlater.shared, hlater.admitsNext, World.start_asks (after.run more).1⟩

/-- A follow-up pass is dropped in its push, with another pass owed. -/
theorem abandoned_pass_owing :
    let start := World.new .coalescing none (.new .standard)
    let before := start.run ([.start (.request .timer) false, .start .change false] ++
      idlePasses.take 3 ++ [.start (.request .timer) false])
    let after := (before.1.step (.drop 0)).1
    before.1.shared = ⟨⟨.running, true⟩, 2⟩ ∧ after.shared = ⟨.new, 2⟩ ∧ after.AdmitsNext 2 := by
  intro start before after
  have hpass := abandoned_pass .coalescing none (.new .standard)
    ([.start (.request .timer) false, .start .change false] ++ idlePasses.take 3 ++
      [.start (.request .timer) false])
    0 ⟨.timer, ⟨false⟩, 2, 2, .pushing⟩ (by decide +kernel) (.drop 0) .aborted rfl
  obtain ⟨hshared, hadmits, _⟩ := (hpass.2 []).2 (List.forall_mem_nil _)
  exact ⟨by decide +kernel, hshared, hadmits⟩

end ReplicaSync
