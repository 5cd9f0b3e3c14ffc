import ReplicaSync.Proofs.Coordinator.History

/-!
# Pages of the log book

While a task owns the gate, the newest page is the one of its running pass; every other page is of
a pass that ended, or whose owner went away. Main statements: `Leg.keeps_page`, what a leg does to
the newest page while the gate is kept, and `BookShows.leg`, that every leg keeps this picture.
-/

namespace ReplicaSync

/-! ### The events of a pass -/

/-- The events by which a pass tells how it ended. -/
inductive PassEvents (channel : String) (number : Nat) : List SyncEvent → Prop where
  | failed (message : String) : PassEvents channel number [.failed number message]
  | unchanged (ms : Nat) : PassEvents channel number [.completed number false ms]
  | changed (ms : Nat) : PassEvents channel number [.completed number true ms]
  | announced (ms : Nat) :
    PassEvents channel number [.completed number true ms, .announced channel]

/-- What a pass has published when it waits at this stage. -/
def FlightStage.published (passId : Nat) : FlightStage → List SyncEvent
  | .pulling | .pushing => []
  | .announcing => [.completed passId true 0]

theorem Verdict.passEvents {coordinator : Coordinator} {passId : Nat} {stage : FlightStage}
    {answer : Answer} {events : List SyncEvent} {last : PassStatus} {error : Option String}
    (h : Verdict coordinator passId stage answer events last error) :
    PassEvents coordinator.config.channelKey passId (stage.published passId ++ events) := by
  cases h with
  | pullFailed | pushFailed => exact .failed _
  | unchanged => exact .unchanged _
  | changed | unannounced => exact .changed _
  | announced => exact .announced _

theorem isBoundary_events {events : List SyncEvent} :
    ∀ act ∈ events.map Act.event, act.isBoundary = false := by
  intro act hact
  obtain ⟨event, _, rfl⟩ := List.mem_map.mp hact
  rfl

/-! ### Writing on a page -/

namespace PassLog

theorem events_write (page : PassLog) (notes : List Note) :
    (page.write notes).events = page.events ++ notes.filterMap (·.act.passEvent?) :=
  List.filterMap_append

theorem deferrals_write (page : PassLog) (notes : List Note) :
    (page.write notes).deferrals =
      page.deferrals + notes.countP fun note => note.act = .settle .deferred :=
  List.countP_append

theorem events_ofActs (page : PassLog) (time number : Nat) (acts : List Act) :
    (page.write (Note.ofActs time number acts)).events =
      page.events ++ acts.filterMap Act.passEvent? := by
  rw [events_write, filterMap_ofActs Act.passEvent?]

theorem deferrals_ofActs (page : PassLog) (time number : Nat) (acts : List Act) :
    (page.write (Note.ofActs time number acts)).deferrals =
      page.deferrals + acts.count (.settle .deferred) := by
  rw [deferrals_write]
  unfold Note.ofActs
  rw [List.countP_map, List.count]
  congr 1

theorem IsAbandoned.write {page : PassLog} (h : page.IsAbandoned) (notes : List Note) :
    (page.write notes).IsAbandoned := by
  obtain ⟨during, time, ending, rest, hnotes, hloss, hduring⟩ := h
  refine ⟨during, time, ending, rest ++ notes, ?_, hloss, hduring⟩
  simp [PassLog.write, hnotes]

/-! ### Pages of passes that are over -/

/-- The owner called the pull of its pass. -/
def HasPulled (page : PassLog) : Prop := ∃ time, ⟨time, page.owner, .call .pull⟩ ∈ page.notes

theorem HasPulled.write {page : PassLog} (h : page.HasPulled) (notes : List Note) :
    (page.write notes).HasPulled := by
  obtain ⟨time, hpulled⟩ := h
  exact ⟨time, List.mem_append_left _ hpulled⟩

/-- The pass called the pull and told how it ended. -/
structure IsComplete (channel : String) (page : PassLog) : Prop where
  pulled : page.HasPulled
  events : PassEvents channel page.number page.events

/-- The pass told how it ended, or was given up before it could. -/
def IsOver (channel : String) (page : PassLog) : Prop :=
  page.IsComplete channel ∨ page.events = [] ∧ page.IsAbandoned

theorem IsComplete.write {channel : String} {page : PassLog} (h : page.IsComplete channel)
    {notes : List Note} (hevents : (page.write notes).events = page.events) :
    (page.write notes).IsComplete channel := by
  refine ⟨h.pulled.write notes, ?_⟩
  rw [hevents]
  exact h.events

theorem IsOver.write {channel : String} {page : PassLog} (h : page.IsOver channel)
    {notes : List Note} (hevents : (page.write notes).events = page.events) :
    (page.write notes).IsOver channel := by
  rcases h with hcomplete | ⟨hnone, habandoned⟩
  · exact .inl (hcomplete.write hevents)
  · exact .inr ⟨hevents.trans hnone, habandoned.write notes⟩

/-! ### The page of the running pass -/

/-- The page is the one of the running pass. -/
structure IsRunning (page : PassLog) (owner : Owner) : Prop where
  number : page.number = owner.passId
  held : page.owner = some owner.number
  isOpen : page.IsOpen
  pulled : page.HasPulled
  events : page.events = owner.stage.published owner.passId
  pending : owner.pending = true ↔ 0 < page.deferrals

theorem count_deferred {acts : List Act} (h : ∀ act ∈ acts, act.isBoundary = false) :
    acts.count (.settle .deferred) = 0 := by
  rw [List.count_eq_zero]
  intro hmem
  cases h _ hmem

theorem isRunning_new (number : Nat) (trigger : Trigger) (passes passId time : Nat) :
    IsRunning ⟨passId, some number, Note.ofActs time number [.call .pull]⟩
      ⟨number, trigger, passes, passId, .pulling, false⟩ where
  number := rfl
  held := rfl
  isOpen := UnderWay.of_own (by simp [Act.isBoundary]) _
  pulled := ⟨time, List.mem_singleton.mpr rfl⟩
  events := by simp [PassLog.events, Note.ofActs, Act.passEvent?, FlightStage.published]
  pending := by simp [deferrals, Note.ofActs]

namespace IsRunning

variable {coordinator : Coordinator} {page : PassLog} {owner : Owner}

theorem own (h : page.IsRunning owner) (time : Nat) {acts : List Act} (stage : FlightStage)
    (hacts : ∀ act ∈ acts, act.isBoundary = false)
    (hevents : owner.stage.published owner.passId ++ acts.filterMap Act.passEvent? =
      stage.published owner.passId) :
    (page.write (Note.ofActs time owner.number acts)).IsRunning { owner with stage } where
  number := h.number
  held := h.held
  isOpen := underWay_append.mpr ⟨h.isOpen, .of_own hacts _⟩
  pulled := h.pulled.write _
  events := by rw [events_ofActs, h.events, hevents]
  pending := by rw [deferrals_ofActs, count_deferred hacts, Nat.add_zero, h.pending]

theorem other (h : page.IsRunning owner) (time : Nat) {number : Nat} (acts : List Act)
    (pending : Bool) (hnumber : number ≠ owner.number)
    (hevents : acts.filterMap Act.passEvent? = [])
    (hpending : pending = true ↔
      owner.pending = true ∨ 0 < acts.count (.settle .deferred)) :
    (page.write (Note.ofActs time number acts)).IsRunning { owner with pending } := by
  have howner : page.owner ≠ some number := by
    rw [h.held]
    intro hsome
    exact hnumber (Option.some.inj hsome).symm
  constructor
  · exact h.number
  · exact h.held
  · exact underWay_append.mpr ⟨h.isOpen, .of_other howner acts⟩
  · exact h.pulled.write _
  · rw [events_ofActs, hevents, List.append_nil, h.events]
  · rw [deferrals_ofActs, hpending, h.pending]
    omega

theorem complete (h : page.IsRunning owner) (time : Nat) {answer : Answer}
    {events : List SyncEvent} {last : PassStatus} {error : Option String}
    (hverdict : Verdict coordinator owner.passId owner.stage answer events last error) :
    (page.write (Note.ofActs time owner.number (events.map Act.event))).IsComplete
      coordinator.config.channelKey where
  pulled := h.pulled.write _
  events := by
    rw [events_ofActs, hverdict.filterMap_passEvent?, h.events]
    have hnumber := h.number
    unfold PassLog.write
    rw [hnumber]
    exact hverdict.passEvents

theorem abandoned (h : page.IsRunning owner) (channel : String) (time : Nat) {ending : Ending}
    (hloss : ending.isLoss = true) :
    (page.write (Note.ofActs time owner.number [.finish ending])).IsOver channel := by
  have hevents : (page.write (Note.ofActs time owner.number [.finish ending])).events =
      page.events := by
    rw [events_ofActs]
    exact List.append_nil _
  -- a pass that was being announced had already told how it ended
  cases hstage : owner.stage with
  | pulling | pushing =>
    refine .inr ⟨?_, page.notes, time, ending, [], ?_, hloss, h.isOpen⟩
    · rw [hevents, h.events, hstage]
      rfl
    · have howner := h.held
      simp [PassLog.write, Note.ofActs, howner]
  | announcing =>
    refine .inl ⟨h.pulled.write _, ?_⟩
    rw [hevents, h.events, hstage]
    have hnumber := h.number
    unfold PassLog.write
    rw [hnumber]
    exact .changed 0

end IsRunning

end PassLog

/-! ### Legs in the log book -/

theorem signals_events (events : List SyncEvent) :
    signals (events.map Act.event) = events.map Act.event := by
  unfold signals
  rw [List.filter_eq_self]
  intro act hact
  obtain ⟨event, _, rfl⟩ := List.mem_map.mp hact
  rfl

theorem Leg.signals_eq {coordinator : Coordinator} {before after : Airspace}
    {heard : Option Answer} {number : Nat} {acts : List Act}
    (h : Leg coordinator before heard number acts after) : signals acts = acts := by
  cases h with
  | quiet | enter | refuse | pulled | uploaded => rfl
  | leave _ _ ending hloss | abandon _ ending hloss =>
    have hsignal : (Act.finish ending).isSignal = true := hloss
    rw [signals_cons, if_pos hsignal, signals_nil]
  | followUp | land =>
    rw [signals_append, signals_events]
    rfl

theorem logBook_ofActs {acts : List Act} (h : signals acts = acts) (notes : List Note)
    (time number : Nat) :
    logBook (notes ++ Note.ofActs time number acts) =
      (Note.ofActs time number acts).foldl PassLog.enter (logBook notes) := by
  rw [logBook_append, Note.signals_ofActs, h]

theorem Note.ofActs_append (time number : Nat) (a b : List Act) :
    Note.ofActs time number (a ++ b) = Note.ofActs time number a ++ Note.ofActs time number b :=
  List.map_append

/-- A place in a history that a task continued is an old one or the place of one of the acts. -/
theorem Note.append_ofActs_eq_split {notes past after : List Note} {time number moment : Nat}
    {task : Option Nat} {act : Act} {acts : List Act}
    (h : notes ++ Note.ofActs time number acts = past ++ ⟨moment, task, act⟩ :: after) :
    (∃ rest, notes = past ++ ⟨moment, task, act⟩ :: rest ∧
      after = rest ++ Note.ofActs time number acts) ∨
    ∃ a b, acts = a ++ act :: b ∧ past = notes ++ Note.ofActs time number a ∧
      after = Note.ofActs time number b ∧ moment = time ∧ task = some number := by
  rcases append_eq_split h with hold | ⟨rest, hnew, rfl⟩
  · exact .inl hold
  · obtain ⟨a, later, rfl, rfl, hlater⟩ := List.map_eq_append_iff.mp hnew
    obtain ⟨first, b, rfl, hfirst, rfl⟩ := List.map_eq_cons_iff.mp hlater
    cases hfirst
    exact .inr ⟨a, b, rfl, rfl, rfl, rfl, rfl⟩

theorem foldl_stay {acts : List Act} (h : ∀ act ∈ acts, act.started? = none)
    (book : List PassLog) (time number : Nat) :
    (Note.ofActs time number acts).foldl PassLog.enter book =
      PassLog.extend book (Note.ofActs time number acts) := by
  refine foldl_enter book _ fun note hmem => ?_
  obtain ⟨act, hact, rfl⟩ := List.mem_map.mp hmem
  exact h act hact

/-- The beginning of a pass opens a page, on which the call of its pull comes first. -/
theorem foldl_nextPass (acts : List Act) (h : ∀ act ∈ acts, act.started? = none)
    (book : List PassLog) (time number passId : Nat) (label : String) :
    (Note.ofActs time number (acts ++ [.event (.started passId label), .call .pull])).foldl
        PassLog.enter book =
      ⟨passId, some number, Note.ofActs time number [.call .pull]⟩ ::
        PassLog.extend book (Note.ofActs time number acts) := by
  rw [Note.ofActs_append, List.foldl_append, foldl_stay h]
  rfl

theorem ne_of_flight?_eq_none {owner : Owner} {number : Nat}
    (h : (Airspace.taken owner).flight? number = none) : number ≠ owner.number := by
  rintro rfl
  simp [Airspace.flight?] at h

/-- While the gate is kept, the running pass goes on, or it ends and the same task begins the next
one; then the page of the ended pass is complete and a request was deferred during it. -/
theorem Leg.keeps_page {coordinator : Coordinator} {owner next : Owner} {heard : Option Answer}
    {number : Nat} {acts : List Act}
    (h : Leg coordinator (.taken owner) heard number acts (.taken next)) (time : Nat) :
    (next.passes = owner.passes ∧ (owner.pending = true → next.pending = true) ∧
      (∀ book, (Note.ofActs time number acts).foldl PassLog.enter book =
        PassLog.extend book (Note.ofActs time number acts)) ∧
      ∀ page : PassLog, page.IsRunning owner →
        (page.write (Note.ofActs time number acts)).IsRunning next) ∨
    ∃ closing fresh, next.passes = owner.passes + 1 ∧ fresh.IsRunning next ∧
      (∀ book, (Note.ofActs time number acts).foldl PassLog.enter book =
        fresh :: PassLog.extend book closing) ∧
      ∀ page : PassLog, page.IsRunning owner →
        (page.write closing).IsComplete coordinator.config.channelKey ∧
          0 < (page.write closing).deferrals := by
  cases h with
  | quiet =>
    refine .inl ⟨rfl, id, fun book => (extend_nil book).symm, fun page hpage => ?_⟩
    show (page.write (Note.ofActs time owner.number [])).IsRunning owner
    exact hpage.own time owner.stage (List.forall_mem_nil _) (List.append_nil _)
  | leave _ _ ending hloss hground =>
    refine .inl ⟨rfl, id, fun book => foldl_stay (by simp [Act.started?]) book _ _,
      fun page hpage => ?_⟩
    exact hpage.other time _ owner.pending (ne_of_flight?_eq_none hground) rfl (by simp)
  | refuse _ _ trigger hother =>
    refine .inl ⟨rfl, fun hpending => ?_, fun book => foldl_stay ?_ book _ _,
      fun page hpage => ?_⟩
    · simp [hpending]
    · cases coordinator.config.policy <;> simp [Act.started?, TriggerPolicy.refusal]
    · refine hpage.other time _ _ hother ?_ ?_
      · cases coordinator.config.policy <;> rfl
      · cases coordinator.config.policy <;> simp [TriggerPolicy.refused, TriggerPolicy.refusal]
  | pulled _ result hstage =>
    refine .inl ⟨rfl, id, fun book => foldl_stay (by simp [Act.started?]) book _ _,
      fun page hpage => ?_⟩
    refine hpage.own time .pushing (by simp [Act.isBoundary]) ?_
    rw [hstage]
    rfl
  | uploaded _ result hstage huploaded hchannel =>
    refine .inl ⟨rfl, id, fun book => foldl_stay (by simp [Act.started?]) book _ _,
      fun page hpage => ?_⟩
    refine hpage.own time .announcing (by simp [Act.isBoundary]) ?_
    rw [hstage]
    rfl
  | followUp _ answer events last error hpending hverdict =>
    -- the mark on the gate is there only because of a deferral on the page that closes
    refine .inr ⟨Note.ofActs time owner.number (events.map Act.event), _, rfl,
      PassLog.isRunning_new _ _ _ _ time,
      fun book => foldl_nextPass _ hverdict.started?_eq_none book _ _ _ _, fun page hpage => ?_⟩
    refine ⟨hpage.complete time hverdict, ?_⟩
    rw [PassLog.deferrals_ofActs, PassLog.count_deferred isBoundary_events]
    exact hpage.pending.mp hpending

/-- The gate is given back: the owner went away, or it was answered after its pass had ended. -/
theorem Leg.clears {coordinator : Coordinator} {owner : Owner} {passes : Nat}
    {heard : Option Answer} {number : Nat} {acts : List Act}
    (h : Leg coordinator (.taken owner) heard number acts (.clear passes)) :
    number = owner.number ∧
      ((∃ ending, ending.isLoss = true ∧ acts = [.finish ending]) ∨
      ∃ answer events last error, owner.pending = false ∧
        Verdict coordinator owner.passId owner.stage answer events last error ∧
        acts = events.map Act.event ++ [.settle (.executed ⟨owner.passes, last, error⟩)]) := by
  cases h with
  | land _ answer events last error hpending hverdict =>
    exact ⟨rfl, .inr ⟨answer, events, last, error, hpending, hverdict, rfl⟩⟩
  | abandon _ ending hloss => exact ⟨rfl, .inl ⟨ending, hloss, rfl⟩⟩

/-! ### The book of a course -/

/-- What the log book shows in a situation. -/
def BookShows (channel : String) (book : List PassLog) : Airspace → Prop
  | .clear _ => ∀ page ∈ book, page.IsOver channel
  | .taken owner =>
    ∃ page older, book = page :: older ∧ page.IsRunning owner ∧
      ∀ earlier ∈ older, earlier.IsOver channel

/-- Notes that publish nothing leave finished pages finished. -/
theorem isOver_extend {channel : String} {book : List PassLog} {notes : List Note}
    (h : ∀ page ∈ book, page.IsOver channel)
    (hnotes : ∀ note ∈ notes, note.act.passEvent? = none) :
    ∀ page ∈ PassLog.extend book notes, page.IsOver channel := by
  cases book with
  | nil => exact h
  | cons first older =>
    rw [List.forall_mem_cons] at h
    unfold PassLog.extend
    rw [List.forall_mem_cons]
    refine ⟨h.1.write ?_, h.2⟩
    rw [PassLog.events_write, List.filterMap_eq_nil_iff.mpr hnotes, List.append_nil]

theorem BookShows.leg {coordinator : Coordinator} {before after : Airspace}
    {heard : Option Answer} {number : Nat} {acts : List Act} {notes : List Note}
    (h : BookShows coordinator.config.channelKey (logBook notes) before)
    (hleg : Leg coordinator before heard number acts after) (time : Nat) :
    BookShows coordinator.config.channelKey (logBook (notes ++ Note.ofActs time number acts))
      after := by
  rw [logBook_ofActs hleg.signals_eq]
  cases before with
  | clear passes =>
    cases hleg with
    | quiet => exact h
    | leave _ _ ending hloss hground =>
      rw [foldl_stay (by simp [Act.started?])]
      exact isOver_extend h (by simp [Note.ofActs, Act.passEvent?])
    | enter _ _ trigger =>
      have hbook := foldl_nextPass [.request trigger] (by simp [Act.started?])
        (logBook notes) time number (passes + 1) trigger.label
      refine ⟨_, _, hbook, PassLog.isRunning_new number trigger 1 (passes + 1) time, ?_⟩
      exact isOver_extend h (by simp [Note.ofActs, Act.passEvent?])
  | taken owner =>
    obtain ⟨page, older, hbook, hpage, holder⟩ := h
    rw [hbook]
    cases after with
    | taken next =>
      rcases hleg.keeps_page time with
        ⟨_, _, hstay, hrunning⟩ | ⟨closing, fresh, _, hfresh, hnext, hdone⟩
      · exact ⟨_, older, hstay _, hrunning page hpage, holder⟩
      · refine ⟨fresh, _, hnext _, hfresh, ?_⟩
        exact List.forall_mem_cons.mpr ⟨.inl (hdone page hpage).1, holder⟩
    | clear passes =>
      obtain ⟨rfl, ⟨ending, hloss, rfl⟩ | ⟨answer, events, last, error, _, hverdict, rfl⟩⟩ :=
        hleg.clears
      · rw [foldl_stay (by simp [Act.started?])]
        exact List.forall_mem_cons.mpr ⟨hpage.abandoned _ time hloss, holder⟩
      · have hcomplete := hpage.complete time hverdict
        rw [Note.ofActs_append, List.foldl_append, foldl_stay hverdict.started?_eq_none,
          foldl_stay (by simp [Act.started?])]
        refine List.forall_mem_cons.mpr ⟨.inl (hcomplete.write ?_), holder⟩
        rw [PassLog.events_ofActs _ time owner.number [.settle _]]
        exact List.append_nil _

end ReplicaSync
