import ReplicaSync.Proofs.Coordinator.Cadence

/-!
# How long a loop lasts

Failed passes do not end a loop, and neither do refused requests or listeners that cannot be
started. A call that panics does: the panic takes the task of the loop with it, and no request is
made any more. Main statement: `loop_endurance`.
-/

namespace ReplicaSync

/-! ### Tasks that are over -/

theorem Round.of_over {coordinator : Coordinator} {now : Nat} {errand : Errand} {cancelled : Bool}
    {ending : Ending} {acts : List Act} {after : Stage}
    (h : Round coordinator now errand cancelled (.over ending) acts after) :
    acts = [] ∧ after = .over ending := by
  cases h with
  | waits => exact ⟨rfl, rfl⟩
  | listens _ _ _ hbefore | turns _ _ _ hbefore => cases hbefore

namespace World

/-- There is such a task, and it is over. -/
def IsOver (world : World) (number : Nat) : Prop :=
  ∃ task ending, world.tasks[number]? = some task ∧ task.stage = .over ending

variable {world : World} {number : Nat}

theorem IsOver.step (h : world.IsOver number) (move : Move) :
    (world.step move).1.IsOver number ∧ exchangesOf number (world.step move).2 = [] := by
  obtain ⟨task, ending, htask, hover⟩ := h
  obtain ⟨hafter, hexchanges⟩ := step_task htask move
  have hplace : task.stage.ofLoop = true → task.errand.isLoop = true := by
    rw [hover]
    exact fun hloop => (nomatch hloop)
  have hstays : (∃ last, (world.stretch move number task).task.stage = .over last) ∧
      exchanges (world.stretch move number task).acts = [] := by
    rcases world.stretch_cases number hplace move with hround | ⟨last, hloss⟩ | ⟨_, hcancel⟩
    · have hkept := hround.round
      rw [hover] at hkept
      exact ⟨⟨ending, hkept.of_over.2⟩, hkept.of_over.1⟩
    · have hlost : (world.stretch move number task).Loses task last := stretch_loses task hloss
      rcases hlost.stage with hlast | ⟨hsame, _⟩
      · exact ⟨⟨last, hlast⟩, hlost.quiet⟩
      · exact ⟨⟨ending, hsame.trans hover⟩, hlost.quiet⟩
    · rcases hcancel.stage with ⟨hsame, _⟩ | ⟨_, hlast, _⟩
      · exact ⟨⟨ending, hsame.trans hover⟩, hcancel.quiet⟩
      · exact ⟨⟨.stopped, hlast⟩, hcancel.quiet⟩
  obtain ⟨⟨last, hlast⟩, hacts⟩ := hstays
  refine ⟨⟨_, last, hafter, hlast⟩, ?_⟩
  rw [hexchanges, hacts]
  rfl

/-- A task that is over stays so, and makes no request. -/
theorem IsOver.run (h : world.IsOver number) (moves : List Move) :
    (world.run moves).1.IsOver number ∧ exchangesOf number (world.run moves).2 = [] := by
  induction moves generalizing world with
  | nil => exact ⟨h, rfl⟩
  | cons move rest ih =>
    obtain ⟨hafter, hquiet⟩ := h.step move
    obtain ⟨hlater, hrest⟩ := ih hafter
    refine ⟨hlater, ?_⟩
    rw [run_cons, exchangesOf_append, hquiet, hrest]
    rfl

theorem lost_step {task : Task} {move : Move} {ending : Ending}
    (htask : world.tasks[number]? = some task) (hloss : move.loss? = some (number, ending)) :
    (world.step move).1.IsOver number ∧ exchangesOf number (world.step move).2 = [] := by
  obtain ⟨hafter, hexchanges⟩ := step_task htask move
  have hlost : (world.stretch move number task).Loses task ending := stretch_loses task hloss
  refine ⟨?_, ?_⟩
  · rcases hlost.stage with hover | ⟨hsame, last, hlast⟩
    · exact ⟨_, ending, hafter, hover⟩
    · exact ⟨_, last, hafter, hsame.trans hlast⟩
  · rw [hexchanges, hlost.quiet]
    rfl

end World

/-! ### Loops -/

theorem EndsBy.elim {moves : List Move} {number : Nat} {task : Task} {ending : Ending}
    (h : EndsBy moves number task ending) :
    task.cancelled = true ∨ .panic number ∈ moves ∨ .drop number ∈ moves := by
  rcases h with ⟨_, hcancelled⟩ | ⟨move, hmem, hloss⟩
  · exact .inl hcancelled
  · cases move with
    | panic other =>
      cases hloss
      exact .inr (.inl hmem)
    | drop other =>
      cases hloss
      exact .inr (.inr hmem)
    | _ => cases hloss

/-- In every run, a loop that is not cancelled or dropped, and none of whose calls panics, is not
over: after each answer its next request is there when the interval has passed, or is still to come.
But if a call that it waits for panics, the loop is over and makes no other request, however the run
goes on. -/
theorem loop_endurance (coordinator : Coordinator) (resolve : Option (Path → Option Path))
    (bus : EventBus) (moves : List Move) (number : Nat) (task : Task)
    (htask : ((World.new coordinator resolve bus).run moves).1.tasks[number]? = some task)
    (hloop : task.errand.isLoop = true) :
    let start := World.new coordinator resolve bus
    let log := exchangesOf number (start.run moves).2
    let pause := min coordinator.config.interval.ticks Duration.longestSleep
    (task.cancelled = false → .drop number ∉ moves → .panic number ∉ moves →
      (∀ ending, task.stage ≠ .over ending) ∧
        ∀ past answered outcome after,
          log = past ++ ⟨answered, some number, .settle outcome⟩ :: after →
          (∃ rest, after = ⟨answered + pause, some number, .request .timer⟩ :: rest) ∨
            after = [] ∧ (start.run moves).1.AsksNext number (answered + pause)) ∧
    ∀ more, (start.run (moves ++ .panic number :: more)).1.IsOver number ∧
      exchangesOf number (start.run (moves ++ .panic number :: more)).2 = log := by
  intro start log pause
  have hpaced : Paced coordinator number moves ((start.returned number moves).map Prod.fst) log
      task := (World.paced_run coordinator resolve bus number moves).paced task htask hloop
  refine ⟨fun hawake hdrop hpanic => ?_, fun more => ?_⟩
  · have hlasts : ∀ ending, task.stage ≠ .over ending := by
      intro ending hover
      rcases (hpaced.ends ending hover).elim with hcancelled | hlost | hlost
      · rw [hawake] at hcancelled
        cases hcancelled
      · exact hpanic hlost
      · exact hdrop hlost
    refine ⟨hlasts, fun past answered outcome after hlog => ?_⟩
    rcases hpaced.answered (World.timely_run coordinator resolve bus moves) htask hloop hlog with
      hnext | ⟨hnone, hasks | ⟨ending, hover, _⟩⟩
    · exact .inl hnext
    · exact .inr ⟨hnone, hasks⟩
    · exact (hlasts ending hover).elim
  · have hloss : Move.loss? (.panic number) = some (number, .panicked) := rfl
    obtain ⟨hover, hquiet⟩ := World.lost_step htask hloss
    obtain ⟨hlater, hrest⟩ := hover.run more
    rw [World.run_append]
    refine ⟨hlater, ?_⟩
    rw [World.run_cons, exchangesOf_append, exchangesOf_append, hquiet, hrest]
    exact List.append_nil log

theorem loop_endurance_panic :
    let start := World.new (.withInterval (.ofMillis 1000)) none (.new .standard)
    exchangesOf 0 (start.run [.start (.loop false) false, .panic 0, .elapse 1000, .wake 0]).2 =
      [⟨0, some 0, .request .timer⟩] := by
  intro start
  have hsome : ((start.run [.start (.loop false) false]).1.tasks[0]?.any (·.errand.isLoop)) =
      true := by
    decide +kernel
  obtain ⟨task, htask, hloop⟩ := (Option.any_eq_true _ _).mp hsome
  have hlasts := loop_endurance (.withInterval (.ofMillis 1000)) none (.new .standard)
    [.start (.loop false) false] 0 task htask hloop
  obtain ⟨_, hquiet⟩ := hlasts.2 [.elapse 1000, .wake 0]
  have hlog : exchangesOf 0 (start.run [.start (.loop false) false]).2 =
      [⟨0, some 0, .request .timer⟩] := by
    decide +kernel
  exact hquiet.trans hlog

/-- A loop that nobody cancels or drops need not go on. -/
theorem loop_ended_by_panic :
    ¬ ∀ (coordinator : Coordinator) resolve bus moves number task,
      coordinator.config.validate = .ok () →
      ((World.new coordinator resolve bus).run moves).1.tasks[number]? = some task →
      task.errand.isLoop = true → task.cancelled = false → .drop number ∉ moves →
      ∀ ending, task.stage ≠ .over ending := by
  intro h
  have hlasts := h (.withInterval (.ofMillis 1000)) none (.new .standard)
    [.start (.loop false) false, .panic 0] 0 ⟨.loop false, false, .over .panicked⟩
    (by decide +kernel) (by decide +kernel) rfl rfl (by simp) .panicked
  exact hlasts rfl

end ReplicaSync
