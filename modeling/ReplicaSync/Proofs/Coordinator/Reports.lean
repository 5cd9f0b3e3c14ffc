import ReplicaSync.Proofs.Coordinator.Announcing
import ReplicaSync.Proofs.Coordinator.Deferral
import ReplicaSync.Proofs.Coordinator.Refusals

/-!
# Reports

A request that was let in is answered by a report on its last pass, whatever became of those before:
the report is settled by the answers that the last pass heard. A pass that fails is followed by the
pass that is owed as any other is. Main statement: `reports_true`.
-/

namespace ReplicaSync

/-! ### What a report says -/

/-- The error of a pass that heard these answers: the phase that failed, and why. -/
def failureOf : List Answer → Option String
  | .pulled (.error cause) :: _ => some ("Pull phase failed: " ++ cause.message)
  | .pulled (.ok _) :: .pushed (.error cause) :: _ =>
    some ("Push phase failed: " ++ cause.message)
  | _ => none

/-- The report is true of a pass that heard these answers. -/
structure PassReport.TellsOf (report : PassReport) (answers : List Answer) : Prop where
  failed : report.last = .failed ↔
    (∃ cause, .pulled (.error cause) ∈ answers) ∨ ∃ cause, .pushed (.error cause) ∈ answers
  changes : report.last = .changes ↔ Uploads answers
  error : report.error = failureOf answers
  told : report.error.isSome = true ↔ report.last = .failed

theorem Verdict.tellsOf {coordinator : Coordinator} {passId : Nat} {stage : FlightStage}
    {answer : Answer} {events : List SyncEvent} {last : PassStatus} {error : Option String}
    (h : Verdict coordinator passId stage answer events last error) {answers : List Answer}
    {deeds : List Act} (hreaches : Reaches coordinator passId stage answers deeds) (passes : Nat) :
    PassReport.TellsOf ⟨passes, last, error⟩ (answers ++ [answer]) := by
  cases h with
  | pullFailed cause =>
    cases hreaches
    exact ⟨by simp, by simp [not_uploads_of_pulled], rfl, by simp⟩
  | pushFailed cause =>
    cases hreaches
    exact ⟨by simp, by simp [not_uploads_of_pushFailed], rfl, by simp⟩
  | unchanged push hnone =>
    cases hreaches
    exact ⟨by simp, by simp [uploads_cons_iff, hnone], rfl, by simp⟩
  | changed push hsome =>
    cases hreaches
    exact ⟨by simp, by simp [uploads_cons_iff, hsome], rfl, by simp⟩
  | announced | unannounced =>
    cases hreaches with
    | announcing pull push hsome => exact ⟨by simp, by simp [uploads_cons_iff, hsome], rfl, by simp⟩

/-- A pass that ends tells of an error if and only if its report will. -/
theorem Verdict.failed_iff {coordinator : Coordinator} {passId : Nat} {stage : FlightStage}
    {answer : Answer} {events : List SyncEvent} {last : PassStatus} {error : Option String}
    (h : Verdict coordinator passId stage answer events last error) (message : String) :
    .event (.failed passId message) ∈ events.map Act.event ↔ error = some message := by
  cases h <;> simp [eq_comm]

/-! ### Passes that a task begins -/

/-- The numbers of the passes that a task began. -/
def startedBy (number : Nat) (notes : List Note) : List Nat :=
  notes.filterMap fun note => if note.task = some number then note.act.started? else none

theorem enter_owners (book : List PassLog) (note : Note) :
    (PassLog.enter book note).map PassLog.owner =
      (if note.act.started?.isSome then [note.task] else []) ++ book.map PassLog.owner := by
  cases hstarted : note.act.started? with
  | none =>
    rw [enter_extend book note hstarted]
    cases book <;> rfl
  | some passId =>
    obtain ⟨label, hact⟩ := Act.eq_of_started? hstarted
    simp [PassLog.enter, hact]

theorem mem_foldl_owners {notes : List Note} {note : Note} (hmem : note ∈ notes)
    (h : note.act.started?.isSome = true) (book : List PassLog) :
    note.task ∈ (notes.foldl PassLog.enter book).map PassLog.owner := by
  have hkeeps : ∀ (rest : List Note) (book : List PassLog), note.task ∈ book.map PassLog.owner →
      note.task ∈ (rest.foldl PassLog.enter book).map PassLog.owner := by
    intro rest
    induction rest with
    | nil => exact fun _ hbook => hbook
    | cons first rest ih =>
      intro book hbook
      apply ih
      rw [enter_owners]
      exact List.mem_append_right _ hbook
  induction notes generalizing book with
  | nil => cases hmem
  | cons first rest ih =>
    rcases List.mem_cons.mp hmem with rfl | hrest
    · refine hkeeps rest (PassLog.enter book note) ?_
      rw [enter_owners, if_pos h]
      exact List.mem_cons_self
    · exact ih hrest _

/-- A pass has a page, and it is held by the task that began the pass. -/
theorem owner_of_started {notes : List Note} {note : Note} (hmem : note ∈ notes) {passId : Nat}
    (h : note.act.started? = some passId) : ∃ page ∈ logBook notes, page.owner = note.task := by
  have hsignal : note.act.isSignal = true := by
    obtain ⟨label, hact⟩ := Act.eq_of_started? h
    rw [hact]
    rfl
  apply List.mem_map.mp
  exact mem_foldl_owners ((Note.mem_signals hsignal).mpr hmem) (by rw [h]; rfl) []

/-- If all pages are of passes of one task, it began these passes and nobody began others. -/
theorem startedBy_eq {number : Nat} {notes : List Note}
    (h : ∀ page ∈ logBook notes, page.owner = some number) :
    startedBy number notes = ((logBook notes).map PassLog.number).reverse := by
  rw [logBook_numbers, List.reverse_reverse]
  refine List.filterMap_congr fun note hmem => ?_
  cases hstarted : note.act.started? with
  | none => simp
  | some passId =>
    obtain ⟨page, hpage, howner⟩ := owner_of_started hmem hstarted
    rw [← howner, h page hpage, if_pos rfl]

theorem startedBy_signals (number : Nat) (notes : List Note) :
    startedBy number (Note.signals notes) = startedBy number notes := by
  unfold startedBy Note.signals
  rw [List.filterMap_filter]
  refine List.filterMap_congr fun note _ => ?_
  cases hsignal : note.act.isSignal with
  | true => rfl
  | false => simp [Act.started?_eq_none hsignal]

/-! ### Requests that were answered -/

/-- The report answers the last request of a task: it counts the passes that the task began since,
and it is true of the last of them. -/
structure Reported (answered : List (Nat × Answer)) (past : List Note) (number : Nat)
    (report : PassReport) (passId : Nat) : Prop where
  told : report.TellsOf (answersOf passId answered)
  passes : ∃ before asked trigger during,
    past = before ++ ⟨asked, some number, .request trigger⟩ :: during ∧
      UnderWay (some number) during ∧
      (startedBy number during).length = report.passes ∧
      (startedBy number during).getLast? = some passId ∧
      ∀ message, (∃ time, ⟨time, some number, .event (.failed passId message)⟩ ∈ during) ↔
        report.error = some message

theorem Reported.later {answered : List (Nat × Answer)} {past : List Note} {number passId : Nat}
    {report : PassReport} (h : Reported answered past number report passId)
    {heard : List (Nat × Answer)} (hheard : ∀ entry ∈ heard, entry.1 ≠ passId) :
    Reported (answered ++ heard) past number report passId := by
  refine ⟨?_, h.passes⟩
  rw [answersOf_append, answersOf_eq_nil hheard, List.append_nil]
  exact h.told

theorem Reported.of_signals {answered : List (Nat × Answer)} {past : List Note}
    {number passId : Nat} {report : PassReport}
    (h : Reported answered (Note.signals past) number report passId) :
    Reported answered past number report passId := by
  obtain ⟨before, asked, trigger, during, hpast, hduring, hlength, hlast, hfailed⟩ := h.passes
  obtain ⟨first, rest, rfl, _, rfl⟩ := signals_eq_split hpast
  refine ⟨h.told, first, asked, trigger, rest, rfl, underWay_signals.mp hduring, ?_, ?_, ?_⟩
  · rw [← startedBy_signals, hlength]
  · rw [← startedBy_signals, hlast]
  · intro message
    rw [← hfailed message]
    refine exists_congr fun time => ?_
    exact (@Note.mem_signals ⟨time, some number, .event (.failed passId message)⟩ rest rfl).symm

/-- What is known of the reports of a course. -/
structure Truthful (coordinator : Coordinator) (answered : List (Nat × Answer))
    (notes : List Note) (airspace : Airspace) : Prop
    extends Logged coordinator.config.channelKey notes airspace where
  recounts : Recounts coordinator answered notes airspace
  failed : ∀ note ∈ notes, ∀ passId message, note.act = .event (.failed passId message) →
    airspace.IsPast passId
  reports : ∀ past time number report after,
    notes = past ++ ⟨time, some number, .settle (.executed report)⟩ :: after →
    ∃ passId, airspace.IsPast passId ∧ Reported answered past number report passId

theorem Truthful.new (coordinator : Coordinator) : Truthful coordinator [] [] (.clear 0) where
  toLogged := .new _
  recounts := .new coordinator
  failed := List.forall_mem_nil _
  reports := fun past _ _ _ _ h => by simp at h

section Legs

variable {coordinator : Coordinator} {answered : List (Nat × Answer)} {notes : List Note}
variable {before after : Airspace} {heard : Option Answer} {number : Nat} {acts : List Act}

theorem Leg.failed_past (h : Leg coordinator before heard number acts after) {passId : Nat}
    {message : String} (hmem : .event (.failed passId message) ∈ acts) : after.IsPast passId := by
  cases h with
  | followUp owner answer events last error hpending hverdict =>
    rcases List.mem_append.mp hmem with hevent | hnext
    · have hsame := hverdict.passId? _ hevent passId rfl
      exact hsame ▸ Nat.lt_succ_self owner.passId
    · simp at hnext
  | land owner answer events last error hpending hverdict =>
    rcases List.mem_append.mp hmem with hevent | hsettle
    · have hsame := hverdict.passId? _ hevent passId rfl
      exact hsame ▸ Nat.le_refl owner.passId
    · simp at hsettle
  | refuse => cases hpolicy : coordinator.config.policy <;>
      simp [hpolicy, TriggerPolicy.refusal] at hmem
  | quiet | leave | enter | pulled | uploaded | abandon => simp at hmem

theorem Airspace.answeredBy_past {airspace : Airspace} {passId : Nat}
    (h : airspace.IsPast passId) (heard : Option Answer) :
    ∀ entry ∈ airspace.answeredBy heard, entry.1 ≠ passId := by
  intro entry hmem
  cases airspace with
  | clear passes => cases hmem
  | taken owner =>
    have hlt : passId < owner.passId := h
    cases heard with
    | none => cases hmem
    | some answer =>
      unfold Airspace.answeredBy at hmem
      simp only at hmem
      split at hmem
      · cases List.mem_singleton.mp hmem
        exact Nat.ne_of_gt hlt
      · cases hmem

/-- The report with which a pass ends is true. -/
theorem Truthful.reported {owner : Owner} {answer : Answer} {events : List SyncEvent}
    {report : PassReport} (h : Truthful coordinator answered notes (.taken owner))
    (hpasses : report.passes = owner.passes)
    (hverdict : Verdict coordinator owner.passId owner.stage answer events report.last
      report.error) (time : Nat) :
    Reported (answered ++ (Airspace.taken owner).answeredBy (some answer))
      (notes ++ Note.ofActs time owner.number (events.map Act.event)) owner.number report
      owner.passId := by
  obtain ⟨passes, last, error⟩ := report
  obtain ⟨page, ⟨before, asked, during, earlier, hnotes, hduring, hbook, hcount, howner, hearlier⟩,
    hrunning⟩ := h.airborne owner rfl
  obtain ⟨_, _, _, _, hreaches, _⟩ := h.recounts.taken owner rfl
  have hstarted : startedBy owner.number during =
      (page.number :: earlier.map PassLog.number).reverse := by
    rw [startedBy_eq, hbook]
    · rfl
    · rw [hbook]
      exact List.forall_mem_cons.mpr ⟨howner, fun old hold => (hearlier old hold).1⟩
  have hnone : startedBy owner.number (Note.ofActs time owner.number (events.map Act.event)) =
      [] := by
    refine List.filterMap_eq_nil_iff.mpr fun note hmem => ?_
    obtain ⟨act, hact, rfl⟩ := List.mem_map.mp hmem
    rw [if_pos rfl, hverdict.started?_eq_none act hact]
  have hbegun : startedBy owner.number (during ++ Note.ofActs time owner.number
      (events.map Act.event)) = (page.number :: earlier.map PassLog.number).reverse := by
    rw [startedBy, List.filterMap_append]
    show startedBy owner.number during ++ startedBy owner.number _ = _
    rw [hstarted, hnone, List.append_nil]
  refine ⟨?_, before, asked, owner.trigger,
    during ++ Note.ofActs time owner.number (events.map Act.event), ?_, ?_, ?_, ?_,
    fun message => ?_⟩
  · rw [airspace_answeredBy hverdict.awaits, answersOf_append, answersOf_own]
    exact hverdict.tellsOf hreaches passes
  · rw [hnotes, List.append_assoc, List.cons_append]
  · exact underWay_append.mpr ⟨hduring, .of_own isBoundary_events _⟩
  · rw [hbegun, List.length_reverse, List.length_cons, List.length_map, hcount]
    exact hpasses.symm
  · rw [hbegun, List.getLast?_reverse, List.head?_cons, hrunning.number]
  · constructor
    · rintro ⟨told, hmem⟩
      rcases List.mem_append.mp hmem with hold | hnew
      · -- the running pass has not been told to have failed
        have hmember :
            ⟨told, some owner.number, .event (.failed owner.passId message)⟩ ∈ notes := by
          rw [hnotes]
          exact List.mem_append_right _ (List.mem_cons_of_mem _ hold)
        exact (Nat.lt_irrefl _ (h.failed _ hmember owner.passId message rfl)).elim
      · exact (hverdict.failed_iff message).mp (Note.mem_ofActs.mp hnew).2.2
    · intro herror
      refine ⟨time, List.mem_append_right _ (Note.mem_ofActs.mpr ⟨rfl, rfl, ?_⟩)⟩
      exact (hverdict.failed_iff message).mpr herror

theorem Truthful.leg (h : Truthful coordinator answered notes before)
    (hleg : Leg coordinator before heard number acts after) (time : Nat) :
    Truthful coordinator (answered ++ before.answeredBy heard)
      (notes ++ Note.ofActs time number acts) after := by
  refine ⟨h.toLogged.leg hleg time, h.recounts.leg hleg time, ?_, ?_⟩
  -- what was known of the notes before is known of them with what is heard and noted now
  · intro note hmem passId message hact
    rcases List.mem_append.mp hmem with hold | hnew
    · exact (hleg.names_later (h.failed note hold passId message hact)).1
    · obtain ⟨act, hmember, rfl⟩ := List.mem_map.mp hnew
      cases hact
      exact hleg.failed_past hmember
  · intro past moment task report later hsplit
    rcases Note.append_ofActs_eq_split hsplit with
      ⟨rest, hold, _⟩ | ⟨a, b, rfl, rfl, _, _, hnumber⟩
    · obtain ⟨passId, hpast, hreported⟩ := h.reports past moment task report rest hold
      exact ⟨passId, (hleg.names_later hpast).1,
        hreported.later (Airspace.answeredBy_past hpast heard)⟩
    · -- a report comes with the end of the pass that it is about
      obtain ⟨owner, answer, events, rfl, rfl, rfl, rfl, _, hpasses, rfl, hverdict⟩ :=
        hleg.at_executed
      cases hnumber
      exact ⟨owner.passId, Nat.le_refl _, h.reported hpasses hverdict time⟩

end Legs

/-! ### The end of a pass -/

theorem Verdict.unique {coordinator : Coordinator} {passId : Nat} {stage : FlightStage}
    {answer : Answer} {events events' : List SyncEvent} {last last' : PassStatus}
    {error error' : Option String}
    (h : Verdict coordinator passId stage answer events last error)
    (h' : Verdict coordinator passId stage answer events' last' error') :
    events = events' ∧ last = last' ∧ error = error' := by
  cases h <;> cases h' <;> simp_all

section Ends

variable {coordinator : Coordinator} {owner : Owner} {answer : Answer} {events : List SyncEvent}
variable {last : PassStatus} {error : Option String} {number : Nat} {acts : List Act}
variable {after : Airspace}

/-- A pass that ends is followed by the one that is owed, or else by the answer to the request. -/
theorem Leg.at_verdict (h : Leg coordinator (.taken owner) (some answer) number acts after)
    (hverdict : Verdict coordinator owner.passId owner.stage answer events last error) :
    number = owner.number ∧
      if owner.pending then
        acts = events.map Act.event ++
            [.event (.started (owner.passId + 1) owner.trigger.label), .call .pull] ∧
          after = .taken
            ⟨owner.number, owner.trigger, owner.passes + 1, owner.passId + 1, .pulling, false⟩
      else
        acts = events.map Act.event ++ [.settle (.executed ⟨owner.passes, last, error⟩)] ∧
          after = .clear owner.passId := by
  cases h with
  | followUp _ _ _ _ _ hpending hother =>
    obtain ⟨rfl, rfl, rfl⟩ := hverdict.unique hother
    rw [if_pos hpending]
    exact ⟨rfl, rfl, rfl⟩
  | land _ _ _ _ _ hpending hother =>
    obtain ⟨rfl, rfl, rfl⟩ := hverdict.unique hother
    rw [hpending]
    exact ⟨rfl, rfl, rfl⟩
  | quiet _ _ _ hunheard =>
    -- the pass waits for an answer that decides it
    have hawaits := hunheard owner rfl answer rfl
    rw [hverdict.awaits] at hawaits
    cases hawaits
  | pulled _ _ hstage =>
    rw [hstage] at hverdict
    cases hverdict
  | uploaded _ _ hstage huploaded hchannel =>
    rw [hstage] at hverdict
    cases hverdict with
    | unchanged _ hnone => simp [hnone] at huploaded
    | changed _ _ hnone => simp [hnone] at hchannel

end Ends

namespace World

/-- With this answer the pass of a task is over. If a request was deferred during the pass, the next
one begins at once, whether this one went well or not; else the request is answered. -/
def EndsPass (world : World) (notes : List Note) (number : Nat) (flight : Flight)
    (answer : Answer) (events : List SyncEvent) (last : PassStatus) (error : Option String) :
    Prop :=
  let next := world.step (.answer number answer)
  ∃ page older, logBook notes = page :: older ∧
    page.number = flight.passId ∧ page.owner = some number ∧
    if 0 < page.deferrals then
      Note.signals next.2 = Note.ofActs world.now number (events.map Act.event ++
          [.event (.started (flight.passId + 1) flight.trigger.label), .call .pull]) ∧
        next.1.flight? number =
          some ⟨flight.trigger, ⟨false⟩, flight.passes + 1, flight.passId + 1, .pulling⟩
    else
      Note.signals next.2 = Note.ofActs world.now number (events.map Act.event ++
          [.settle (.executed ⟨flight.passes, last, error⟩)]) ∧
        next.1.flight? number = none

theorem Shows.endsPass {world : World} {notes : List Note} {number : Nat} {flight : Flight}
    {airspace : Airspace} (h : world.Shows airspace) {channel : String}
    (hbook : BookShows channel (logBook notes) airspace)
    (hflight : world.flight? number = some flight) {answer : Answer} {events : List SyncEvent}
    {last : PassStatus} {error : Option String}
    (hverdict : Verdict world.coordinator flight.passId flight.stage answer events last error) :
    world.EndsPass notes number flight answer events last error := by
  have howned := hflight
  rw [h.flight? number] at howned
  obtain ⟨owner, rfl, rfl, rfl⟩ := flight?_eq_some howned
  obtain ⟨page, older, hpages, hpage, _⟩ := hbook
  obtain ⟨mover, acts, after, hleg, hnotes, hafter⟩ := step_leg h (.answer owner.number answer)
  have hheard : (Airspace.taken owner).hears (.answer owner.number answer) = some answer := by
    simp [Airspace.hears, Airspace.heard, Airspace.flight?]
  rw [hheard] at hleg
  obtain ⟨rfl, hcases⟩ := hleg.at_verdict hverdict
  refine ⟨page, older, hpages, hpage.number, hpage.held, ?_⟩
  by_cases hpending : owner.pending = true
  · rw [if_pos hpending] at hcases
    obtain ⟨rfl, rfl⟩ := hcases
    rw [if_pos (hpage.pending.mp hpending)]
    refine ⟨hnotes, ?_⟩
    rw [hafter.flight?]
    simp [Airspace.flight?, Owner.flight]
  · rw [if_neg hpending] at hcases
    obtain ⟨rfl, rfl⟩ := hcases
    rw [if_neg fun hdeferred => hpending (hpage.pending.mpr hdeferred)]
    exact ⟨hnotes, hafter.flight? _⟩

variable (coordinator : Coordinator) (resolve : Option (Path → Option Path)) (bus : EventBus)

theorem truthful_run (moves : List Move) :
    let start := World.new coordinator resolve bus
    ∃ airspace, (start.run moves).1.Shows airspace ∧
      Truthful coordinator (start.answered moves) (Note.signals (start.run moves).2)
        airspace := by
  intro start
  exact course_induction coordinator resolve bus
    (P := fun moves notes airspace => Truthful coordinator (start.answered moves) notes airspace)
    (Truthful.new coordinator)
    (fun moves move _ _ time _ _ _ hshows hleg htrue => by
      rw [World.answered_snoc, hshows.answeredBy_eq]
      exact htrue.leg hleg time) moves

end World

/-- Every answer to a request that was let in tells of its last pass, and counts its passes. A pass
that fails is followed by a pass that is owed, as any other is. -/
theorem reports_true (coordinator : Coordinator) (resolve : Option (Path → Option Path))
    (bus : EventBus) (moves : List Move) :
    let start := World.new coordinator resolve bus
    let (world, notes) := start.run moves
    (∀ past time number report after,
      notes = past ++ ⟨time, some number, .settle (.executed report)⟩ :: after →
      ∃ passId, Reported (start.answered moves) past number report passId) ∧
    ∀ number flight, world.flight? number = some flight →
      ∀ answer events last error,
        Verdict coordinator flight.passId flight.stage answer events last error →
        world.EndsPass notes number flight answer events last error := by
  intro start
  obtain ⟨airspace, hshows, htrue⟩ := World.truthful_run coordinator resolve bus moves
  refine ⟨?_, ?_⟩
  · intro past time number report after hsplit
    have hsignals := signals_split hsplit rfl
    obtain ⟨passId, _, hreported⟩ := htrue.reports _ _ _ _ _ hsignals
    exact ⟨passId, hreported.of_signals⟩
  · intro number flight hflight answer events last error hverdict
    have hbook := htrue.book
    rw [logBook_signals] at hbook
    refine hshows.endsPass hbook hflight ?_
    rw [World.run_coordinator]
    exact hverdict

/-- The error of a pass that failed is not told of the pass that follows it. -/
theorem reports_true_recovered :
    let start := World.new .coalescing none (.new .standard)
    let moves : List Move := [.start (.request .timer) false, .start .change false,
      .answer 0 (.pulled (.error (.connection "lost"))), .answer 0 (.pulled (.ok .noChanges)),
      .answer 0 (.pushed (.ok ⟨.appliedChanges, ⟨["a"], [], [], []⟩⟩))]
    ∃ past after passId, (start.run moves).2 =
        past ++ ⟨0, some 0, .settle (.executed ⟨2, .changes, none⟩)⟩ :: after ∧
      Reported (start.answered moves) past 0 ⟨2, .changes, none⟩ passId := by
  intro start moves
  have hmem : ⟨0, some 0, .settle (.executed ⟨2, .changes, none⟩)⟩ ∈ (start.run moves).2 := by
    decide +kernel
  obtain ⟨past, after, hsplit⟩ := List.append_of_mem hmem
  obtain ⟨passId, hreported⟩ :=
    (reports_true .coalescing none (.new .standard) moves).1 _ _ _ _ _ hsplit
  exact ⟨past, after, passId, hsplit, hreported⟩

end ReplicaSync
