import ReplicaSync.Proofs.Coordinator.Cadence
import ReplicaSync.Proofs.Coordinator.Counterpart
import ReplicaSync.Proofs.Coordinator.EventGrammar
import ReplicaSync.Proofs.Coordinator.Requests
import ReplicaSync.Proofs.Coordinator.SingleFlight

/-!
# Refused requests

A request that is refused is of no consequence: without it everything else happens as it did, at
the same time, as long as every pass that was asked to be followed by another one is still asked by
somebody. Main statement: `refusals_leave_no_trace`.
-/

namespace ReplicaSync

/-! ### When requests are refused -/

theorem TriggerPolicy.refused_eq (policy : TriggerPolicy) :
    policy.refused = .dropped ∨ policy.refused = .deferred := by
  cases policy with
  | drop => exact .inl rfl
  | coalesce => exact .inr rfl

theorem Stage.ofLoop_of_mayAsk {now : Nat} {stage : Stage} (h : stage.mayAsk now = true) :
    stage.ofLoop = true := by
  cases stage with
  | ready | subscribing | watching | sleeping => rfl
  | flying | «over» => cases h

/-- A task that is no loop makes its request when it begins, and none later. -/
theorem Round.noRequest {coordinator : Coordinator} {now : Nat} {errand : Errand}
    {cancelled : Bool} {before after : Stage} {acts : List Act}
    (h : Round coordinator now errand cancelled before acts after)
    (hloop : errand.isLoop = false) (hplace : before.ofLoop = true → errand.isLoop = true)
    (trigger : Trigger) : .request trigger ∉ acts := by
  cases h with
  | waits | listens | flies => exact List.not_mem_nil
  | answered => simp
  | turns _ _ _ hmay =>
    rw [hplace (Stage.ofLoop_of_mayAsk hmay)] at hloop
    cases hloop

/-- A task that is refused as it begins is over. -/
theorem Turn.refused_over {coordinator : Coordinator} {now : Nat} {errand : Errand}
    {cancelled : Bool} {after : Stage} {acts : List Act}
    (h : Turn coordinator now errand cancelled acts after) (hloop : errand.isLoop = false)
    {outcome : RequestOutcome} (hmem : .settle outcome ∈ acts) :
    ∃ ending, after = .over ending := by
  cases h with
  | stops | enters => simp at hmem
  | refused _ _ hrests =>
    cases hrests with
    | done ending => exact ⟨ending, rfl⟩
    | stopped hother | sleeps hother =>
      rw [hloop] at hother
      cases hother

namespace World

variable {gone : Nat → Bool} {world thin : World} {airspace : Airspace}

/-- A task that is no loop is refused when it begins, or not at all. -/
theorem step_notRefused (hshows : world.Shows airspace) (hworld : world.Timely) {number : Nat}
    {task : Task} (htask : world.tasks[number]? = some task)
    (hloop : task.errand.isLoop = false) (move : Move) (time : Nat) :
    ⟨time, some number, .settle world.coordinator.config.policy.refused⟩ ∉
      (world.step move).2 := by
  intro hrefused
  obtain ⟨⟨trigger, hrequest⟩, _⟩ := (hshows.treatsRequests move).answers time number _
    (TriggerPolicy.refused_eq _) hrefused
  have hexchange := mem_exchangesOf hrequest rfl
  rw [(step_task htask move).2] at hexchange
  have hasked := (Note.mem_ofActs.mp hexchange).2.2
  have hplace := hworld.placed number task htask
  rcases world.stretch_cases number hplace move with hround | ⟨ending, hloss⟩ | ⟨_, hcancel⟩
  · exact hround.round.noRequest hloop hplace trigger hasked
  · rw [(stretch_loses task hloss).quiet] at hasked
    cases hasked
  · rw [hcancel.quiet] at hasked
    cases hasked

/-- What a request leaves behind that is refused: a mark on the gate at most, and no pass. -/
theorem step_refused (hshows : world.Shows airspace) {move : Move} {number time : Nat}
    (hrefused : ⟨time, some number, .settle world.coordinator.config.policy.refused⟩ ∈
      (world.step move).2) :
    (world.step move).1.shared.unmarked = world.shared.unmarked ∧
      ∀ note ∈ (world.step move).2, note.act.started? = none := by
  obtain ⟨mover, acts, after, hleg, hnotes, hafter⟩ := step_leg hshows move
  have hsettled : .settle world.coordinator.config.policy.refused ∈ acts := by
    rw [← Note.mem_signals rfl, hnotes] at hrefused
    exact (Note.mem_ofActs.mp hrefused).2.2
  obtain ⟨owner, trigger, rfl, _, _, rfl, rfl⟩ := hleg.of_refused (TriggerPolicy.refused_eq _)
    hsettled
  refine ⟨?_, fun note hmem => ?_⟩
  · rw [hafter.shared, hshows.shared]
    rfl
  · cases hsignal : note.act.isSignal with
    | false => exact Act.started?_eq_none hsignal
    | true =>
      rw [← Note.mem_signals hsignal, hnotes] at hmem
      obtain ⟨act, hact, rfl⟩ := List.mem_map.mp hmem
      simp only [List.mem_cons, List.not_mem_nil, or_false] at hact
      rcases hact with rfl | rfl | rfl
      · rfl
      · cases world.coordinator.config.policy <;> rfl
      · rfl

theorem begun_over {move : Move} {errand : Errand} {cancelled : Bool}
    (hbegun : world.begun move = some (errand, cancelled)) (hloop : errand.isLoop = false)
    {time : Nat} {outcome : RequestOutcome}
    (hrefused : ⟨time, some world.tasks.length, .settle outcome⟩ ∈ (world.step move).2) :
    ∃ ending, (Task.start world.coordinator world.now world.shared errand
      cancelled).task.stage = .over ending := by
  have hnone : world.tasks[world.tasks.length]? = none := List.getElem?_eq_none (Nat.le_refl _)
  rcases step_noTask hnone move with ⟨_, hquiet⟩ | ⟨other, flag, hother, _, _, hexchanges⟩
  · exact (exchange_notMem hquiet rfl time hrefused).elim
  · rw [hbegun] at hother
    cases hother
    have hexchange := mem_exchangesOf hrefused rfl
    rw [hexchanges] at hexchange
    have hturns : (Task.start world.coordinator world.now world.shared errand cancelled).Turns
        world.coordinator world.now ⟨errand, cancelled, .ready⟩ :=
      start_turns world.shared cancelled hloop
    exact hturns.turns.refused_over hloop (Note.mem_ofActs.mp hexchange).2.2

theorem step_begun {move : Move} {errand : Errand} {cancelled : Bool}
    (hbegun : world.begun move = some (errand, cancelled)) :
    (world.step move).1.tasks[world.tasks.length]? =
      some (Task.start world.coordinator world.now world.shared errand cancelled).task := by
  unfold begun at hbegun
  split at hbegun
  · cases hbegun
    simp only [World.step, begin_eq, List.getElem?_concat_length]
  · simp only [World.step]
    split at hbegun
    · cases hbegun
    · rename_i hspawned
      cases hbegun
      split
      · exact (hspawned ‹_›).elim
      · simp only [begin_eq, List.getElem?_concat_length]
  · cases hbegun

/-! ### Moves that are left out -/

theorem act_over {number : Nat} {step : Task → TaskStep}
    (h : ∀ task, world.tasks[number]? = some task → step task = ⟨world.shared, task, []⟩) :
    world.act number step = (world, []) := by
  unfold World.act
  cases htask : world.tasks[number]? with
  | none => rfl
  | some task =>
    obtain ⟨hlt, hget⟩ := List.getElem?_eq_some_iff.mp htask
    have hset : world.tasks.set number task = world.tasks := by
      rw [← hget]
      exact List.set_getElem_self hlt
    simp only [h task htask, commit, hset]
    rfl

theorem answer_over {number : Nat} {reply : Answer}
    (h : ∀ task, world.tasks[number]? = some task → ∃ ending, task.stage = .over ending) :
    world.answer number reply = (world, []) := by
  rcases answer_cases world number reply with hact | ⟨⟨task, htask, hwatching⟩, _⟩
  · rw [hact]
    refine act_over fun task htask => ?_
    obtain ⟨ending, hstage⟩ := h task htask
    simp only [Task.resume, hstage]
  · obtain ⟨ending, hstage⟩ := h task htask
    rw [hwatching] at hstage
    cases hstage

/-- What is left out of a run when a move is: nothing that the counterpart would miss. -/
structure Skips (gone : Nat → Bool) (result : World × List Note) (thin : World) : Prop where
  world : result.1.Thins gone thin
  notes : thinNotes gone result.2 = []
  silent : ∀ note ∈ result.2, note.act.started? = none

theorem Thins.begin_gone (h : world.Thins gone thin) (hgone : gone world.tasks.length = true)
    {errand : Errand} {cancelled : Bool}
    (hshared : (world.begin errand cancelled).1.shared.unmarked = world.shared.unmarked)
    (hover : ∃ ending, (Task.start world.coordinator world.now world.shared errand
      cancelled).task.stage = .over ending)
    (hsilent : ∀ note ∈ (world.begin errand cancelled).2, note.act.started? = none) :
    Skips gone (world.begin errand cancelled) thin := by
  rw [begin_eq] at hshared hsilent ⊢
  refine ⟨⟨h.coordinator, h.resolve, h.watcher, h.now, hshared.trans h.shared, ?_, h.spawned, ?_⟩,
    thinNotes_gone hgone _ _, hsilent⟩
  · simp only [without_concat, hgone, if_true, List.append_nil]
    exact h.tasks
  · intro number task hnumber htask
    rcases Nat.lt_trichotomy number world.tasks.length with hlt | rfl | hgt
    · rw [List.getElem?_append_left hlt] at htask
      exact h.idle number task hnumber htask
    · rw [List.getElem?_concat_length] at htask
      cases htask
      exact hover
    · rw [List.getElem?_eq_none (by simp; omega)] at htask
      cases htask

theorem Thins.act_gone (h : world.Thins gone thin) {number : Nat} (hgone : gone number = true)
    {step : Task → TaskStep}
    (hstep : ∀ task ending, task.stage = .over ending → step task = ⟨world.shared, task, []⟩) :
    Skips gone (world.act number step) thin := by
  have hover : world.act number step = (world, []) := by
    refine act_over fun task htask => ?_
    obtain ⟨ending, hstage⟩ := h.idle number task hgone htask
    exact hstep task ending hstage
  rw [hover]
  exact ⟨h, rfl, List.forall_mem_nil _⟩

/-- A move that is left out changes nothing for the counterpart, if the task that it begins is
refused. -/
theorem Thins.skip (h : world.Thins gone thin) (hshows : world.Shows airspace) {move : Move}
    (hkeeps : world.keeps gone move = false)
    (hrefused : ∀ errand cancelled, world.begun move = some (errand, cancelled) →
      gone world.tasks.length = true → errand.isLoop = false ∧ ∃ time,
        ⟨time, some world.tasks.length, .settle world.coordinator.config.policy.refused⟩ ∈
          (world.step move).2) :
    Skips gone (world.step move) thin := by
  have hstill : Skips gone (world, []) thin := ⟨h, rfl, List.forall_mem_nil _⟩
  cases move with
  | start errand cancelled =>
    have hgone : gone world.tasks.length = true := by simpa [keeps] using hkeeps
    obtain ⟨hloop, time, hmem⟩ := hrefused errand cancelled rfl hgone
    obtain ⟨hshared, hsilent⟩ := step_refused hshows hmem
    exact h.begin_gone hgone hshared (begun_over rfl hloop hmem) hsilent
  | callback =>
    cases hspawned : world.spawned with
    | zero =>
      simp only [World.step, hspawned]
      exact hstill
    | succ left =>
      have hgone : gone world.tasks.length = true := by simpa [keeps, hspawned] using hkeeps
      have hbegun : world.begun .callback = some (.change, false) := by simp [begun, hspawned]
      obtain ⟨hloop, time, hmem⟩ := hrefused _ _ hbegun hgone
      have hover := begun_over hbegun hloop hmem
      obtain ⟨hshared, hsilent⟩ := step_refused hshows hmem
      have hle := h.spawned
      have hthins : { world with spawned := left }.Thins gone thin :=
        ⟨h.coordinator, h.resolve, h.watcher, h.now, h.shared, h.tasks, by simp only; omega, h.idle⟩
      simp only [World.step, hspawned] at hshared hsilent ⊢
      exact hthins.begin_gone hgone hshared hover hsilent
  | answer number reply =>
    have hgone : gone number = true := by simpa [keeps] using hkeeps
    have hover : world.step (.answer number reply) = (world, []) :=
      answer_over fun task htask => h.idle number task hgone htask
    rw [hover]
    exact hstill
  | panic number | drop number =>
    have hgone : gone number = true := by simpa [keeps] using hkeeps
    exact h.act_gone hgone fun task ending hstage => by simp only [Task.abandon, hstage]
  | cancel number =>
    have hgone : gone number = true := by simpa [keeps] using hkeeps
    refine h.act_gone hgone fun task ending hstage => ?_
    unfold Task.cancel
    rw [hstage]
    split <;> simp_all
  | wake number =>
    have hgone : gone number = true := by simpa [keeps] using hkeeps
    exact h.act_gone hgone fun task ending hstage => by simp only [Task.wake, hstage]
  | raw | rawError | settle | elapse | observe | remark => cases hkeeps

end World

/-! ### The log book without some tasks -/

/-- The page without the notes of the tasks that are gone. -/
def PassLog.thin (gone : Nat → Bool) (page : PassLog) : PassLog :=
  ⟨page.number, page.owner.map (place gone), thinNotes gone page.notes⟩

/-- Somebody who is not gone was deferred during the pass. -/
def PassLog.KeepsDeferral (gone : Nat → Bool) (page : PassLog) : Prop :=
  ∃ note ∈ page.notes, note.act = .settle .deferred ∧ note.remains gone = true

section Books

variable {gone : Nat → Bool}

theorem extend_thin (book : List PassLog) (notes : List Note) :
    (PassLog.extend book notes).map (PassLog.thin gone) =
      PassLog.extend (book.map (PassLog.thin gone)) (thinNotes gone notes) := by
  cases book with
  | nil => rfl
  | cons page older => simp [PassLog.extend, PassLog.write, PassLog.thin, thinNotes_append]

theorem enter_thin (book : List PassLog) {note : Note}
    (h : note.remains gone = false → note.act.started? = none) :
    (PassLog.enter book note).map (PassLog.thin gone) =
      (thinNotes gone [note]).foldl PassLog.enter (book.map (PassLog.thin gone)) := by
  cases hremains : note.remains gone with
  | false =>
    have hnone : thinNotes gone [note] = [] := by simp [thinNotes, hremains]
    rw [enter_extend book note (h hremains), extend_thin, hnone, extend_nil]
    rfl
  | true =>
    have hone : thinNotes gone [note] = [note.renumber gone] := by simp [thinNotes, hremains]
    rw [hone, List.foldl_cons, List.foldl_nil]
    cases hstarted : note.act.started? with
    | none =>
      have hsame : (note.renumber gone).act.started? = none := hstarted
      rw [enter_extend book note hstarted, extend_thin, hone, enter_extend _ _ hsame]
    | some number =>
      obtain ⟨label, hact⟩ := Act.eq_of_started? hstarted
      simp [PassLog.enter, Note.renumber, hact, PassLog.thin, thinNotes]

/-- A log book without tasks that begin no pass has the same pages without their notes. -/
theorem logBook_thin {notes : List Note}
    (h : ∀ note ∈ notes, note.remains gone = false → note.act.started? = none) :
    logBook (thinNotes gone notes) = (logBook notes).map (PassLog.thin gone) := by
  have henter : ∀ (signals : List Note) (book : List PassLog),
      (∀ note ∈ signals, note.remains gone = false → note.act.started? = none) →
      (thinNotes gone signals).foldl PassLog.enter (book.map (PassLog.thin gone)) =
        (signals.foldl PassLog.enter book).map (PassLog.thin gone) := by
    intro signals
    induction signals with
    | nil => exact fun _ _ => rfl
    | cons note rest ih =>
      intro book hsignals
      rw [List.forall_mem_cons] at hsignals
      rw [List.foldl_cons, ← ih _ hsignals.2, enter_thin book hsignals.1, ← List.foldl_append,
        ← thinNotes_append, List.singleton_append]
  unfold logBook
  rw [thinNotes_signals]
  exact henter _ [] fun note hmem => h note (List.mem_filter.mp hmem).1

theorem deferrals_thin (page : PassLog) :
    0 < (page.thin gone).deferrals ↔ page.KeepsDeferral gone := by
  unfold PassLog.deferrals PassLog.KeepsDeferral PassLog.thin thinNotes
  rw [List.countP_pos_iff]
  simp only [List.mem_map, List.mem_filter, decide_eq_true_eq]
  constructor
  · rintro ⟨_, ⟨note, ⟨hmem, hremains⟩, rfl⟩, hact⟩
    exact ⟨note, hmem, hact, hremains⟩
  · rintro ⟨note, hmem, hact, hremains⟩
    exact ⟨_, ⟨note, ⟨hmem, hremains⟩, rfl⟩, hact⟩

end Books

/-! ### The mark at the end of a pass -/

theorem PassLog.KeepsDeferral.deferrals_pos {gone : Nat → Bool} {page : PassLog}
    (h : page.KeepsDeferral gone) : 0 < page.deferrals := by
  obtain ⟨note, hmem, hact, _⟩ := h
  exact List.countP_pos_iff.mpr ⟨note, hmem, decide_eq_true hact⟩

/-- Events at the end of a pass are no deferrals. -/
theorem PassLog.KeepsDeferral.of_write {gone : Nat → Bool} {page : PassLog} {time number : Nat}
    {events : List SyncEvent}
    (h : (page.write (Note.ofActs time number (events.map Act.event))).KeepsDeferral gone) :
    page.KeepsDeferral gone := by
  obtain ⟨note, hmem, hsettle, hremains⟩ := h
  rcases List.mem_append.mp hmem with hold | hnew
  · exact ⟨note, hold, hsettle, hremains⟩
  · obtain ⟨_, hevent, rfl⟩ := List.mem_map.mp hnew
    obtain ⟨_, _, rfl⟩ := List.mem_map.mp hevent
    cases hsettle

/-- While the gate is kept, a pass begins only when another one of the owner ends that is owed. -/
theorem Leg.at_nextPass {coordinator : Coordinator} {owner : Owner} {after : Airspace}
    {heard : Option Answer} {number : Nat} {acts : List Act}
    (h : Leg coordinator (.taken owner) heard number acts after) {act : Act} (hmem : act ∈ acts)
    (hstarted : act.started? ≠ none) :
    ∃ answer events last error, owner.pending = true ∧ number = owner.number ∧
      Verdict coordinator owner.passId owner.stage answer events last error ∧
      acts = events.map Act.event ++
        [.event (.started (owner.passId + 1) owner.trigger.label), .call .pull] := by
  cases h with
  | followUp _ answer events last error hpending hverdict =>
    exact ⟨answer, events, last, error, hpending, rfl, hverdict, rfl⟩
  | land _ answer events last error hpending hverdict =>
    rcases List.mem_append.mp hmem with hevent | hsettle
    · exact (hstarted (hverdict.started?_eq_none act hevent)).elim
    · cases List.mem_singleton.mp hsettle
      exact (hstarted rfl).elim
  | refuse _ _ trigger =>
    have hnone : ∀ act ∈ [Act.request trigger, .event (coordinator.config.policy.refusal trigger),
        .settle coordinator.config.policy.refused], act.started? = none := by
      cases coordinator.config.policy <;> simp [Act.started?, TriggerPolicy.refusal]
    exact (hstarted (hnone act hmem)).elim
  | quiet => cases hmem
  | leave | pulled | abandon =>
    cases List.mem_singleton.mp hmem
    exact (hstarted rfl).elim
  | uploaded =>
    simp only [List.mem_cons, List.not_mem_nil, or_false] at hmem
    rcases hmem with rfl | rfl <;> exact (hstarted rfl).elim

namespace World

variable {gone : Nat → Bool} {world thin : World} {airspace other : Airspace}
variable {channel : String} {notes : List Note}

/-- When a pass begins while the gate is kept, another one was owed and its page is closed. -/
theorem step_closes {owner : Owner} (hshows : world.Shows (.taken owner)) {page : PassLog}
    {older : List PassLog} (hpages : logBook notes = page :: older) {move : Move} {note : Note}
    (hmem : note ∈ (world.step move).2) (hstarted : note.act.started? ≠ none) :
    owner.pending = true ∧ ∃ events : List SyncEvent,
      (logBook (notes ++ (world.step move).2)).tail =
        page.write (Note.ofActs world.now owner.number (events.map Act.event)) :: older := by
  obtain ⟨mover, acts, after, hleg, hnotes, _⟩ := step_leg hshows move
  have hsignal : note.act.isSignal = true := by
    by_contra hquiet
    exact hstarted (Act.started?_eq_none (Bool.eq_false_iff.mpr hquiet))
  rw [← Note.mem_signals hsignal, hnotes] at hmem
  obtain ⟨act, hact, rfl⟩ := List.mem_map.mp hmem
  obtain ⟨answer, events, last, error, hpending, rfl, hverdict, rfl⟩ :=
    hleg.at_nextPass hact hstarted
  refine ⟨hpending, events, ?_⟩
  rw [logBook_append, hnotes, foldl_nextPass _ hverdict.started?_eq_none, hpages]
  rfl

/-- The gates are marked alike, or the pass of the owner goes on: a pass that ends on a marked gate
is followed by another one, so its page keeps a deferral that both worlds know of. -/
theorem Thins.marks (h : world.Thins gone thin) (hshows : world.Shows airspace)
    (hother : thin.Shows other) (hbook : BookShows channel (logBook notes) airspace)
    (hthin : BookShows channel (logBook (thinNotes gone notes)) other)
    (hsilent : ∀ note ∈ notes, note.remains gone = false → note.act.started? = none) {move : Move}
    (hkept : ∀ page ∈ (logBook (notes ++ (world.step move).2)).tail,
      0 < page.deferrals → page.KeepsDeferral gone) :
    world.shared = thin.shared ∨ world.shared.gate.pending = true ∧
      ∀ note ∈ (world.step move).2, note.act.started? = none := by
  have hshared := h.shared
  rw [hshows.shared, hother.shared] at hshared ⊢
  cases airspace with
  | clear passes =>
    cases other with
    | clear passes => exact .inl (Shared.eq_of_unmarked hshared rfl)
    | taken owner => cases hshared
  | taken owner =>
    cases other with
    | clear passes => cases hshared
    | taken rival =>
      obtain ⟨page, older, hpages, hpage, _⟩ := hbook
      obtain ⟨_, _, hthinned, hrival, _⟩ := hthin
      rw [logBook_thin hsilent, hpages] at hthinned
      cases hthinned
      have hmark : rival.pending = true ↔ page.KeepsDeferral gone :=
        hrival.pending.trans (deferrals_thin page)
      by_cases hkeeps : page.KeepsDeferral gone
      · refine .inl (Shared.eq_of_unmarked hshared ?_)
        exact (hpage.pending.mpr hkeeps.deferrals_pos).trans (hmark.mpr hkeeps).symm
      cases hpending : owner.pending with
      | false =>
        have hrivalPending : rival.pending = false := Bool.eq_false_iff.mpr (mt hmark.mp hkeeps)
        exact .inl (Shared.eq_of_unmarked hshared (hpending.trans hrivalPending.symm))
      | true =>
        refine .inr ⟨hpending, fun note hmem => ?_⟩
        by_contra hstarted
        -- the page of the pass that ends is closed, and has no deferral that is kept
        obtain ⟨_, events, hclosed⟩ := step_closes hshows hpages hmem hstarted
        rw [hclosed] at hkept
        have hdeferrals : 0 < (page.write
            (Note.ofActs world.now owner.number (events.map Act.event))).deferrals := by
          rw [PassLog.deferrals_write]
          exact Nat.add_pos_left (hpage.pending.mp hpending) _
        exact hkeeps (hkept _ List.mem_cons_self hdeferrals).of_write

/-! ### Runs -/

theorem tail_enter (book : List PassLog) (note : Note) {page : PassLog} (h : page ∈ book.tail) :
    page ∈ (PassLog.enter book note).tail := by
  cases hstarted : note.act.started? with
  | none =>
    rw [enter_extend book note hstarted]
    cases book with
    | nil => exact h
    | cons first older => exact h
  | some number =>
    obtain ⟨label, hact⟩ := Act.eq_of_started? hstarted
    simp only [PassLog.enter, hact, List.tail_cons]
    exact List.mem_of_mem_tail h

/-- A page that is closed stays closed. -/
theorem tail_logBook (notes more : List Note) {page : PassLog} (h : page ∈ (logBook notes).tail) :
    page ∈ (logBook (notes ++ more)).tail := by
  rw [logBook_append]
  generalize logBook notes = book at h
  induction Note.signals more generalizing book with
  | nil => exact h
  | cons note rest ih => exact ih _ (tail_enter book note h)

/-- The tasks that are gone are no loops and were refused, and every pass that was followed keeps
a deferral. -/
structure Withdrawn (gone : Nat → Bool) (result : World × List Note) : Prop where
  refused : ∀ number task, gone number = true → result.1.tasks[number]? = some task →
    task.errand.isLoop = false ∧ ∃ time,
      ⟨time, some number, .settle result.1.coordinator.config.policy.refused⟩ ∈ result.2
  kept : ∀ page ∈ (logBook result.2).tail, 0 < page.deferrals → page.KeepsDeferral gone

section Runs

variable (coordinator : Coordinator) (resolve : Option (Path → Option Path)) (bus : EventBus)
variable (moves : List Move)

/-- What every leg keeps of the airspace holds after a run, with the log book of the run. -/
theorem logged_course {P : Airspace → Prop} (hnew : P (.clear 0))
    (hleg : ∀ before after heard number acts, Leg coordinator before heard number acts after →
      P before → P after) :
    let start := World.new coordinator resolve bus
    ∃ airspace, (start.run moves).1.Shows airspace ∧
      BookShows coordinator.config.channelKey (logBook (start.run moves).2) airspace ∧
      P airspace := by
  intro start
  obtain ⟨airspace, hshows, hlogged, hkept⟩ := course_induction coordinator resolve bus
    (P := fun _ notes airspace => Logged coordinator.config.channelKey notes airspace ∧ P airspace)
    ⟨Logged.new _, hnew⟩
    (fun _ _ _ _ time _ _ _ _ h before => ⟨before.1.leg h time, hleg _ _ _ _ _ h before.2⟩) moves
  refine ⟨airspace, hshows, ?_, hkept⟩
  rw [← logBook_signals]
  exact hlogged.book

theorem logged_run :
    let start := World.new coordinator resolve bus
    ∃ airspace, (start.run moves).1.Shows airspace ∧
      BookShows coordinator.config.channelKey (logBook (start.run moves).2) airspace := by
  intro start
  obtain ⟨airspace, hshows, hbook, _⟩ := logged_course coordinator resolve bus moves
    (P := fun _ => True) trivial fun _ _ _ _ _ _ _ => trivial
  exact ⟨airspace, hshows, hbook⟩

theorem Withdrawn.of_snoc {move : Move}
    (h : Withdrawn gone ((World.new coordinator resolve bus).run (moves ++ [move]))) :
    Withdrawn gone ((World.new coordinator resolve bus).run moves) := by
  obtain ⟨airspace, hshows, _⟩ := logged_run coordinator resolve bus moves
  have hworld := timely_run coordinator resolve bus moves
  rw [run_snoc] at h
  refine ⟨fun number task hgone htask => ?_, fun page hpage => ?_⟩
  · have hplace := hworld.placed number task htask
    obtain ⟨hloop, time, hmem⟩ := h.refused number _ hgone (step_task htask move).1
    rw [stretch_errand _ number hplace] at hloop
    rw [step_coordinator] at hmem
    refine ⟨hloop, time, (List.mem_append.mp hmem).resolve_right ?_⟩
    exact step_notRefused hshows hworld htask hloop move time
  · exact h.kept page (tail_logBook _ _ hpage)

/-- A task that is gone is refused in the move with which it begins. -/
theorem Withdrawn.begun {move : Move}
    (h : Withdrawn gone ((World.new coordinator resolve bus).run (moves ++ [move])))
    {errand : Errand} {cancelled : Bool} :
    let world := ((World.new coordinator resolve bus).run moves).1
    world.begun move = some (errand, cancelled) → gone world.tasks.length = true →
      errand.isLoop = false ∧ ∃ time,
        ⟨time, some world.tasks.length, .settle world.coordinator.config.policy.refused⟩ ∈
          (world.step move).2 := by
  intro world hbegun hgone
  have hnone : world.tasks[world.tasks.length]? = none := List.getElem?_eq_none (Nat.le_refl _)
  rw [run_snoc] at h
  obtain ⟨hloop, time, hmem⟩ := h.refused _ _ hgone (step_begun hbegun)
  rw [(start_rounds world.shared errand cancelled).errand] at hloop
  rw [step_coordinator] at hmem
  have hquiet := ((paced_run coordinator resolve bus world.tasks.length moves).absent hnone).2
  exact ⟨hloop, time, (List.mem_append.mp hmem).resolve_left (exchange_notMem hquiet rfl time)⟩

end Runs

/-- The run without the tasks that are gone does what the run did, but for them. -/
structure Traceless (gone : Nat → Bool) (start : World) (moves : List Move) : Prop where
  result : ThinsResult gone (start.run moves) (start.run (start.thinned gone moves))
  silent : ∀ note ∈ (start.run moves).2, note.remains gone = false → note.act.started? = none
  moments : (start.moments (fun _ _ => true) (start.thinned gone moves)).map Moment.unmarked =
    (start.moments (fun world => world.keeps gone) moves).map fun moment =>
      (moment.thin gone).unmarked

namespace Traceless

variable {start : World} {moves : List Move} {move : Move}

/-- A move that is kept is seen as it was. -/
theorem keep (h : Traceless gone start moves)
    (hkeeps : (start.run moves).1.keeps gone move = true)
    (hresult : ThinsResult gone ((start.run moves).1.step move)
      ((start.run (start.thinned gone moves)).1.step (move.renumber gone))) :
    Traceless gone start (moves ++ [move]) := by
  have hthinned : start.thinned gone (moves ++ [move]) =
      start.thinned gone moves ++ [move.renumber gone] := by
    rw [thinned_snoc, if_pos hkeeps]
  constructor
  · rw [hthinned, run_snoc, run_snoc]
    refine ⟨hresult.world, ?_⟩
    rw [thinNotes_append, h.result.notes, hresult.notes]
  · rw [run_snoc]
    refine List.forall_mem_append.mpr ⟨h.silent, fun note hmem hgone => ?_⟩
    rw [step_remains hkeeps note hmem] at hgone
    cases hgone
  · have hworld := hresult.world
    rw [hthinned, moments_snoc, moments_snoc, List.map_append, List.map_append, h.moments]
    simp only [hkeeps, if_true, List.map_singleton, Moment.unmarked, Moment.thin, hworld.now,
      hworld.shared, hworld.tasks, hresult.notes]

/-- A move that is left out is not missed. -/
theorem skip (h : Traceless gone start moves)
    (hkeeps : (start.run moves).1.keeps gone move = false)
    (hskips : Skips gone ((start.run moves).1.step move)
      (start.run (start.thinned gone moves)).1) :
    Traceless gone start (moves ++ [move]) := by
  have hthinned : start.thinned gone (moves ++ [move]) = start.thinned gone moves := by
    rw [thinned_snoc, hkeeps, if_neg Bool.false_ne_true, List.append_nil]
  constructor
  · rw [hthinned, run_snoc]
    refine ⟨hskips.world, ?_⟩
    rw [thinNotes_append, hskips.notes, List.append_nil, h.result.notes]
  · rw [run_snoc]
    exact List.forall_mem_append.mpr ⟨h.silent, fun note hmem _ => hskips.silent note hmem⟩
  · rw [hthinned, moments_snoc, h.moments]
    simp [hkeeps]

end Traceless

theorem traceless_run (coordinator : Coordinator) (resolve : Option (Path → Option Path))
    (bus : EventBus) (moves : List Move)
    (h : Withdrawn gone ((World.new coordinator resolve bus).run moves)) :
    Traceless gone (World.new coordinator resolve bus) moves := by
  -- a run is continued at its end, so the induction is on the moves from last to first
  induction moves using List.reverseRecOn with
  | nil =>
    refine ⟨⟨⟨rfl, rfl, rfl, rfl, rfl, rfl, Nat.le_refl _, ?_⟩, rfl⟩, List.forall_mem_nil _, rfl⟩
    intro number task _ htask
    cases htask
  | append_singleton moves move ih =>
    have htraceless := ih h.of_snoc
    obtain ⟨airspace, hshows, hbook⟩ := logged_run coordinator resolve bus moves
    obtain ⟨other, hother, hthin⟩ := logged_run coordinator resolve bus
      ((World.new coordinator resolve bus).thinned gone moves)
    cases hkeeps : ((World.new coordinator resolve bus).run moves).1.keeps gone move with
    | false =>
      exact htraceless.skip hkeeps
        (htraceless.result.world.skip hshows hkeeps fun _ _ => h.begun)
    | true =>
      rw [htraceless.result.notes] at hthin
      have hkept := h.kept
      rw [run_snoc] at hkept
      exact htraceless.keep hkeeps (htraceless.result.world.step hkeeps
        (htraceless.result.world.marks hshows hother hbook hthin htraceless.silent hkept))

end World

/-- Take any run, and any of its tasks but loops that were refused, as long as every pass during
which a request was deferred keeps a deferred request. The run of the moves without these tasks
shows exactly the notes of the other tasks, at the same times; and at every move that is left the
clock, the state of the gate, the passes and the other tasks are the same. -/
theorem refusals_leave_no_trace (coordinator : Coordinator)
    (resolve : Option (Path → Option Path)) (bus : EventBus) (moves : List Move)
    (gone : Nat → Bool)
    (hrefused : ∀ number, gone number = true → ∃ task time,
      ((World.new coordinator resolve bus).run moves).1.tasks[number]? = some task ∧
        task.errand.isLoop = false ∧
        ⟨time, some number, .settle coordinator.config.policy.refused⟩ ∈
          ((World.new coordinator resolve bus).run moves).2)
    (hkept : ∀ page ∈ logBook ((World.new coordinator resolve bus).run moves).2,
      0 < page.deferrals → page.KeepsDeferral gone) :
    let start := World.new coordinator resolve bus
    let thinned := start.thinned gone moves
    (start.run thinned).2 = thinNotes gone (start.run moves).2 ∧
      (start.moments (fun _ _ => true) thinned).map Moment.unmarked =
        (start.moments (fun world => world.keeps gone) moves).map fun moment =>
          (moment.thin gone).unmarked := by
  intro start thinned
  have hcoordinator : (start.run moves).1.coordinator = coordinator :=
    World.run_coordinator start moves
  have hwithdrawn : World.Withdrawn gone (start.run moves) := by
    refine ⟨fun number task hgone htask => ?_, fun page hpage => ?_⟩
    · obtain ⟨other, time, hother, hloop, hmem⟩ := hrefused number hgone
      rw [htask] at hother
      cases hother
      rw [hcoordinator]
      exact ⟨hloop, time, hmem⟩
    · exact hkept page (List.mem_of_mem_tail hpage)
  have htraceless : World.Traceless gone start moves :=
    World.traceless_run coordinator resolve bus moves hwithdrawn
  exact ⟨htraceless.result.notes, htraceless.moments⟩

/-- A coordinator under the coalescing policy. -/
def Coordinator.coalescing : Coordinator :=
  ⟨{ (Coordinator.withInterval (.ofMillis 1000)).config with policy := .coalesce }, false, false⟩

/-- Two passes that find nothing to do, each pulled and pushed by the first task. -/
def idlePasses : List Move :=
  [.answer 0 (.pulled (.ok .noChanges)), .answer 0 (.pushed (.ok .noChanges)),
    .answer 0 (.pulled (.ok .noChanges)), .answer 0 (.pushed (.ok .noChanges))]

theorem refusals_leave_no_trace_twice :
    let start := World.new .coalescing none (.new .standard)
    let moves := [.start (.request .timer) false, .start .change false, .start .change false] ++
      idlePasses
    let thinned := [.start (.request .timer) false, .start .change false] ++ idlePasses
    (start.run thinned).2 = thinNotes (· = 1) (start.run moves).2 := by
  intro start moves thinned
  have hthinned : start.thinned (· = 1) moves = thinned := by rfl
  have hrefused : ∀ number, decide (number = 1) = true → ∃ task time,
      (start.run moves).1.tasks[number]? = some task ∧ task.errand.isLoop = false ∧
        ⟨time, some number, .settle .deferred⟩ ∈ (start.run moves).2 := by
    intro number hnumber
    cases of_decide_eq_true hnumber
    exact ⟨⟨.change, false, .over .returned⟩, 0, by decide +kernel, rfl, by decide +kernel⟩
  have hkept : ∀ page ∈ logBook (start.run moves).2, 0 < page.deferrals →
      ∃ note ∈ page.notes, note.act = .settle .deferred ∧ note.remains (· = 1) = true := by
    decide +kernel
  have hsame := (refusals_leave_no_trace .coalescing none (.new .standard) moves (· = 1) hrefused
    hkept).1
  rw [← hthinned]
  exact hsame

end ReplicaSync
