import ReplicaSync.Proofs.Coordinator.Endurance
import ReplicaSync.Proofs.Coordinator.Refusals

/-!
# Shutdown

A loop that is cancelled during a pass of its own request waits until the request is answered, makes
no other one and stops. But the request goes on to the next pass for as long as one is owed, so
under the coalescing policy passes may begin after the cancellation. Main statement:
`shutdown_runs_owed_passes`.
-/

namespace ReplicaSync

/-! ### Passes that are owed -/

/-- A pass is owed only under the policy that remembers refused requests. -/
def Airspace.OwesByPolicy (airspace : Airspace) (policy : TriggerPolicy) : Prop :=
  ∀ owner, airspace = .taken owner → owner.pending = true → policy = .coalesce

theorem Airspace.OwesByPolicy.leg {coordinator : Coordinator} {before after : Airspace}
    {heard : Option Answer} {number : Nat} {acts : List Act}
    (h : before.OwesByPolicy coordinator.config.policy)
    (hleg : Leg coordinator before heard number acts after) :
    after.OwesByPolicy coordinator.config.policy := by
  rintro next rfl hpending
  cases hleg with
  | quiet | leave => exact h next rfl hpending
  | enter | followUp => cases hpending
  | pulled owner | uploaded owner => exact h owner rfl hpending
  | refuse owner =>
    rcases Bool.or_eq_true _ _ ▸ hpending with hbefore | hpolicy
    · exact h owner rfl hbefore
    · exact of_decide_eq_true hpolicy

/-- The pass comes right after one of the same task, during which a request was deferred. -/
def FollowsDeferral (past : List Note) (number passId : Nat) : Prop :=
  ∃ page older, logBook past = page :: older ∧ page.owner = some number ∧
    page.number + 1 = passId ∧ 0 < page.deferrals

theorem started_split {events : List SyncEvent} {passId later : Nat} {label other : String}
    {a b : List Act}
    (hevents : events = [] ∨ ∃ event, events = [event] ∧ event.ofPass = true)
    (h : a ++ .event (.started passId label) :: b =
      events.map Act.event ++ [.event (.started later other), .call .pull]) :
    a = events.map Act.event ∧ passId = later := by
  rcases split_events hevents h with ⟨_, hpass⟩ | ⟨rest, rfl, hrest⟩
  · cases hpass
  · have hpull : Act.event (.started passId label) ∉ [.call .pull] := by simp
    obtain ⟨rfl, hstarted, _⟩ :=
      (List.append_cons_inj_of_notMem List.not_mem_nil hpull).mp hrest
    cases hstarted
    exact ⟨List.append_nil _, rfl⟩

namespace World

variable {world : World} {airspace : Airspace} {number : Nat}

/-- A pass that a task begins without a request is one that was owed. -/
theorem step_owed {channel : String} {notes a b : List Note} {move : Move} {time passId : Nat}
    {label : String} (hshows : world.Shows airspace)
    (hbook : BookShows channel (logBook notes) airspace)
    (hquiet : ∀ trigger, ⟨world.now, some number, .request trigger⟩ ∉ (world.step move).2)
    (hsplit : (world.step move).2 =
      a ++ ⟨time, some number, .event (.started passId label)⟩ :: b) :
    (∃ owner, airspace = .taken owner ∧ owner.pending = true) ∧
      FollowsDeferral (notes ++ a) number passId := by
  obtain ⟨mover, acts, after, hleg, hnotes, _⟩ := step_leg hshows move
  have hsignals := signals_split hsplit rfl
  rw [hnotes, ← List.nil_append (Note.ofActs _ _ _)] at hsignals
  rcases Note.append_ofActs_eq_split hsignals with ⟨_, hnil, _⟩ | ⟨c, d, rfl, ha, _, _, hmover⟩
  · simp at hnil
  cases hmover
  rw [List.nil_append] at ha
  cases airspace with
  | clear passes =>
    -- from a gate that nobody owns a pass begins with a request
    have horigin := hleg.at_event
    generalize hevent : SyncEvent.started passId label = event at horigin
    cases horigin with
    | enters _ trigger =>
      refine (hquiet trigger ?_).elim
      rw [← Note.mem_signals rfl, hnotes]
      exact Note.mem_ofActs.mpr ⟨rfl, rfl, by simp⟩
    | follows _ _ _ hbefore | tells _ _ _ hbefore | refuses _ _ hbefore => cases hbefore
  | taken owner =>
    have hmem : Act.event (.started passId label) ∈
        c ++ .event (.started passId label) :: d := by simp
    obtain ⟨answer, events, last, error, hpending, rfl, hverdict, hacts⟩ :=
      hleg.at_nextPass hmem (Option.some_ne_none _)
    obtain ⟨rfl, rfl⟩ := started_split hverdict.events_eq hacts
    obtain ⟨page, older, hpages, hpage, _⟩ := hbook
    refine ⟨⟨owner, rfl, hpending⟩, page.write (Note.ofActs world.now owner.number
      (events.map Act.event)), older, ?_, hpage.held, congrArg (· + 1) hpage.number, ?_⟩
    · rw [logBook_append, ha, foldl_stay hverdict.started?_eq_none, hpages]
      rfl
    · rw [PassLog.deferrals_write]
      exact Nat.add_pos_left (hpage.pending.mp hpending) _

end World

/-! ### Loops that are cancelled during a pass -/

/-- With an answer a cancelled loop stops, and it hears nothing else. -/
theorem Round.windsUp {coordinator : Coordinator} {now : Nat} {errand : Errand}
    {flight : Flight} {acts : List Act} {after : Stage}
    (h : Round coordinator now errand true (.flying flight) acts after)
    (hloop : errand.isLoop = true) :
    acts = [] ∧ (∃ next, after = .flying next) ∨
      ∃ outcome, acts = [.settle outcome] ∧ after = .over .stopped := by
  cases h with
  | waits => exact .inl ⟨rfl, flight, rfl⟩
  | flies _ next => exact .inl ⟨rfl, next, rfl⟩
  | answered _ _ outcome hrests =>
    cases hrests with
    | stopped => exact .inr ⟨outcome, rfl, rfl⟩
    | done _ hnot =>
      rw [hloop] at hnot
      cases hnot
    | sleeps _ hawake => cases hawake
  | listens _ _ _ hbefore | turns _ _ _ hbefore => cases hbefore

namespace World

variable {world : World} {airspace : Airspace} {number : Nat} {task : Task}

/-- A task that hears an answer without a request was let in before. -/
theorem step_executed (hshows : world.Shows airspace) {move : Move} {outcome : RequestOutcome}
    (h : exchangesOf number (world.step move).2 =
      [⟨world.now, some number, .settle outcome⟩]) :
    ∃ report, outcome = .executed report := by
  have hmem : ⟨world.now, some number, .settle outcome⟩ ∈ (world.step move).2 := by
    have hexchange : ⟨world.now, some number, .settle outcome⟩ ∈
        exchangesOf number (world.step move).2 := by
      rw [h]
      exact List.mem_singleton_self _
    exact (List.mem_filter.mp hexchange).1
  have hadmitted : ¬ (outcome = .dropped ∨ outcome = .deferred) := by
    intro hrefused
    obtain ⟨⟨trigger, hrequest⟩, _⟩ :=
      (hshows.treatsRequests move).answers _ _ _ hrefused hmem
    have hexchange := mem_exchangesOf hrequest rfl
    rw [h] at hexchange
    cases List.mem_singleton.mp hexchange
  cases outcome with
  | executed report => exact ⟨report, rfl⟩
  | dropped => exact (hadmitted (.inl rfl)).elim
  | deferred => exact (hadmitted (.inr rfl)).elim

/-- The loop waits for its request to be answered, or it heard the answer and stopped. These are
its requests and answers since it was cancelled. -/
inductive WindsUp (number : Nat) (task : Task) : List Note → Prop where
  | flies (flight : Flight) (hstage : task.stage = .flying flight)
      (hcancelled : task.cancelled = true) : WindsUp number task []
  | stopped (time : Nat) (report : PassReport) (hstage : task.stage = .over .stopped) :
    WindsUp number task [⟨time, some number, .settle (.executed report)⟩]

theorem WindsUp.step {since : List Note} (h : WindsUp number task since)
    (hshows : world.Shows airspace) (hloop : task.errand.isLoop = true)
    (htask : world.tasks[number]? = some task) {move : Move}
    (hkept : ∀ ending, move.loss? ≠ some (number, ending)) :
    WindsUp number (world.stretch move number task).task
      (since ++ exchangesOf number (world.step move).2) := by
  have hexchanges := (step_task htask move).2
  rcases world.stretch_cases number (fun _ => hloop) move with hround | ⟨ending, hloss⟩ |
    ⟨_, hcancel⟩
  · have hturns := hround.round
    cases h with
    | stopped time report hstage =>
      rw [hstage] at hturns
      obtain ⟨hacts, hafter⟩ := hturns.of_over
      rw [hexchanges, hacts]
      exact .stopped time report hafter
    | flies flight hstage hcancelled =>
      rw [hstage, hcancelled] at hturns
      rcases hturns.windsUp hloop with ⟨hacts, next, hafter⟩ | ⟨outcome, hacts, hafter⟩
      · rw [hexchanges, hacts]
        exact .flies next hafter (hround.cancelled.trans hcancelled)
      · rw [hacts] at hexchanges
        obtain ⟨report, rfl⟩ := step_executed hshows hexchanges
        rw [hexchanges]
        exact .stopped world.now report hafter
  · exact (hkept ending hloss).elim
  · have hsame : (world.stretch move number task).task.stage = task.stage := by
      rcases hcancel.stage with ⟨hsame, _⟩ | ⟨_, _, wakeAt, hsleeps⟩
      · exact hsame
      · cases h with
        | flies flight hstage | stopped _ _ hstage =>
          rw [hstage] at hsleeps
          cases hsleeps
    rw [hexchanges, hcancel.quiet]
    show WindsUp number _ (since ++ [])
    rw [List.append_nil]
    cases h with
    | flies flight hstage hcancelled =>
      exact .flies flight (hsame.trans hstage) (hcancel.cancelled hcancelled)
    | stopped time report hstage => exact .stopped time report (hsame.trans hstage)

/-- A cancelled loop makes no request. -/
theorem WindsUp.noRequest {since : List Note} (h : WindsUp number task since) :
    ∀ time trigger, ⟨time, some number, .request trigger⟩ ∉ since := by
  intro time trigger hmem
  cases h with
  | flies => cases hmem
  | stopped => cases List.mem_singleton.mp hmem

/-! ### Runs -/

/-- A cancellation of a loop that is awake is only noted. -/
theorem cancel_awake (htask : world.tasks[number]? = some task)
    (herrand : task.errand = .loop false) (hawake : ∀ wakeAt, task.stage ≠ .sleeping wakeAt)
    (hlives : ∀ ending, task.stage ≠ .over ending) :
    world.step (.cancel number) =
      ({ world with tasks := world.tasks.set number { task with cancelled := true } }, []) := by
  have hcancel : task.cancel world.shared =
      ⟨world.shared, { task with cancelled := true }, []⟩ := by
    unfold Task.cancel
    rw [herrand]
    cases hstage : task.stage with
    | sleeping wakeAt => exact (hawake wakeAt hstage).elim
    | «over» ending => exact (hlives ending hstage).elim
    | ready | subscribing | watching | flying => rfl
  show world.act number (·.cancel world.shared) = _
  unfold World.act
  simp only [htask, hcancel]
  rfl

/-- What is known of a loop that was cancelled during a pass, and of the passes that it began
since. -/
structure ShutsDown (policy : TriggerPolicy) (number : Nat) (past : List Note)
    (result : World × List Note) : Prop where
  winds : ∃ task, result.1.tasks[number]? = some task ∧ task.errand.isLoop = true ∧
    WindsUp number task (exchangesOf number result.2)
  owed : ∀ before time passId label after,
    result.2 = before ++ ⟨time, some number, .event (.started passId label)⟩ :: after →
    policy = .coalesce ∧ FollowsDeferral (past ++ before) number passId

theorem ShutsDown.step {policy : TriggerPolicy} {channel : String} {past notes : List Note}
    (h : ShutsDown policy number past (world, notes)) (hworld : world.Timely)
    (hshows : world.Shows airspace) (howes : airspace.OwesByPolicy policy)
    (hbook : BookShows channel (logBook (past ++ notes)) airspace) {move : Move}
    (hkept : ∀ ending, move.loss? ≠ some (number, ending)) :
    ShutsDown policy number past ((world.step move).1, notes ++ (world.step move).2) := by
  obtain ⟨task, htask, hloop, hwinds⟩ := h.winds
  have hnext := hwinds.step hshows hloop htask hkept
  rw [← exchangesOf_append] at hnext
  refine ⟨⟨_, (step_task htask move).1, ?_, hnext⟩, ?_⟩
  · rw [stretch_errand world number (hworld.placed number task htask), hloop]
  · intro before time passId label after hsplit
    rcases append_eq_split hsplit with ⟨rest, hold, _⟩ | ⟨a, hnew, rfl⟩
    · exact h.owed before time passId label rest hold
    · have hquiet : ∀ trigger, ⟨world.now, some number, .request trigger⟩ ∉
          (world.step move).2 := by
        intro trigger hmem
        exact hnext.noRequest _ _ (mem_exchangesOf (List.mem_append_right notes hmem) rfl)
      obtain ⟨⟨owner, howner, hpending⟩, hfollows⟩ := step_owed hshows hbook hquiet hnew
      rw [← List.append_assoc]
      exact ⟨howes owner howner hpending, hfollows⟩

section Runs

variable (coordinator : Coordinator) (resolve : Option (Path → Option Path)) (bus : EventBus)
variable (moves : List Move)

theorem shutsDown_run (number : Nat)
    (h : let state := (World.new coordinator resolve bus).run moves
      ShutsDown coordinator.config.policy number state.2 (state.1, [])) (more : List Move)
    (hkept : ∀ move ∈ more, ∀ ending, move.loss? ≠ some (number, ending)) :
    let state := (World.new coordinator resolve bus).run moves
    ShutsDown coordinator.config.policy number state.2 (state.1.run more) := by
  intro state
  -- a run is continued at its end, so the induction is on the moves from last to first
  induction more using List.reverseRecOn with
  | nil => exact h
  | append_singleton more move ih =>
    obtain ⟨hbefore, hmove⟩ := List.forall_mem_append.mp hkept
    obtain ⟨airspace, hshows, hbook, howes⟩ := logged_course coordinator resolve bus
      (moves ++ more) (fun _ hother => by cases hother)
      fun before _ _ _ _ hleg howes => Airspace.OwesByPolicy.leg howes hleg
    have hworld := timely_run coordinator resolve bus (moves ++ more)
    rw [run_append] at hshows hbook hworld
    rw [run_snoc]
    exact (ih hbefore).step hworld hshows howes hbook (hmove move (List.mem_singleton_self _))

end Runs

end World

/-- When a loop is cancelled during a pass of its own request, this is only noted and the pass goes
on. From then on the loop makes no request: unless its task panics or is dropped, it waits until
the request is executed and stops. A pass that it still begins is one that was owed: the policy is
to coalesce, and a request was deferred during the pass before. -/
theorem shutdown_runs_owed_passes (coordinator : Coordinator)
    (resolve : Option (Path → Option Path)) (bus : EventBus) (moves : List Move) (number : Nat)
    (task : Task) (flight : Flight)
    (htask : ((World.new coordinator resolve bus).run moves).1.tasks[number]? = some task)
    (herrand : task.errand = .loop false) (hstage : task.stage = .flying flight)
    (more : List Move) (hkept : ∀ move ∈ more, ∀ ending, move.loss? ≠ some (number, ending)) :
    let before := (World.new coordinator resolve bus).run moves
    let cancelled := before.1.step (.cancel number)
    let after := cancelled.1.run more
    cancelled = ({ before.1 with
      tasks := before.1.tasks.set number { task with cancelled := true } }, []) ∧
    (∃ last, after.1.tasks[number]? = some last ∧
      World.WindsUp number last (exchangesOf number after.2)) ∧
    ∀ past time passId label rest,
      after.2 = past ++ ⟨time, some number, .event (.started passId label)⟩ :: rest →
      coordinator.config.policy = .coalesce ∧
        FollowsDeferral (before.2 ++ past) number passId := by
  intro before cancelled after
  have hcancelled : cancelled = ({ before.1 with
      tasks := before.1.tasks.set number { task with cancelled := true } }, []) :=
    World.cancel_awake htask herrand (by simp [hstage]) (by simp [hstage])
  have hrun : (World.new coordinator resolve bus).run (moves ++ [.cancel number]) =
      (cancelled.1, before.2) := by
    rw [World.run_snoc]
    show (cancelled.1, before.2 ++ cancelled.2) = _
    rw [hcancelled, List.append_nil]
  have hplace : number < before.1.tasks.length := (List.getElem?_eq_some_iff.mp htask).1
  have hshuts := World.shutsDown_run coordinator resolve bus (moves ++ [.cancel number])
    number
  rw [hrun] at hshuts
  have hstart : World.ShutsDown coordinator.config.policy number before.2 (cancelled.1, []) := by
    refine ⟨⟨{ task with cancelled := true }, ?_, ?_, .flies flight hstage rfl⟩, ?_⟩
    · rw [hcancelled]
      exact List.getElem?_set_self hplace
    · exact congrArg Errand.isLoop herrand
    · intro past time passId label rest hnil
      cases past <;> cases hnil
  obtain ⟨⟨last, hlast, _, hwinds⟩, howed⟩ := hshuts hstart more hkept
  exact ⟨hcancelled, ⟨last, hlast, hwinds⟩, howed⟩

theorem shutdown_runs_owed_passes_second :
    let start := World.new .coalescing none (.new .standard)
    let before := start.run [.start (.loop false) false, .start .change false]
    let after := (before.1.step (.cancel 0)).1.run idlePasses
    ∃ past rest, after.2 = past ++ ⟨0, some 0, .event (.started 2 "timer")⟩ :: rest ∧
      FollowsDeferral (before.2 ++ past) 0 2 := by
  intro start before after
  have hstarted : ⟨0, some 0, .event (.started 2 "timer")⟩ ∈ after.2 := by decide +kernel
  have hkept : ∀ move ∈ idlePasses, move.loss? = none := by decide +kernel
  obtain ⟨_, _, howed⟩ := shutdown_runs_owed_passes .coalescing none (.new .standard)
    [.start (.loop false) false, .start .change false] 0
    ⟨.loop false, false, .flying ⟨.timer, ⟨false⟩, 1, 1, .pulling⟩⟩
    ⟨.timer, ⟨false⟩, 1, 1, .pulling⟩
    (by decide +kernel) rfl rfl idlePasses
    (fun move hmem ending => by simp [hkept move hmem])
  obtain ⟨past, rest, hsplit⟩ := List.append_of_mem hstarted
  exact ⟨past, rest, hsplit, (howed past 0 2 "timer" rest hsplit).2⟩

/-- A loop may begin a pass after it was cancelled. -/
theorem pass_begun_after_shutdown :
    ¬ ∀ (coordinator : Coordinator) resolve bus moves number task flight more,
      coordinator.config.validate = .ok () →
      ((World.new coordinator resolve bus).run moves).1.tasks[number]? = some task →
      task.errand = .loop false → task.stage = .flying flight →
      ∀ note ∈ ((((World.new coordinator resolve bus).run moves).1.step (.cancel number)).1.run
        more).2, note.task = some number → note.act.started? = none := by
  intro h
  have hnone := h .coalescing none (.new .standard)
    [.start (.loop false) false, .start .change false] 0
    ⟨.loop false, false, .flying ⟨.timer, ⟨false⟩, 1, 1, .pulling⟩⟩
    ⟨.timer, ⟨false⟩, 1, 1, .pulling⟩
    idlePasses (by decide +kernel) (by decide +kernel) rfl rfl
    ⟨0, some 0, .event (.started 2 "timer")⟩ (by decide +kernel) rfl
  cases hnone

end ReplicaSync
