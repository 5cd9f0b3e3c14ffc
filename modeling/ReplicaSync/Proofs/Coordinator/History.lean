import ReplicaSync.Proofs.Coordinator.Leg

/-!
# What the notes of a run tell

The passes that were begun, the calls of the pipeline, where requests begin and end, and a log
book with one page for each pass. A page holds the signals from the beginning of its pass to the
beginning of the next one, so it shows the events of the pass, who was refused meanwhile and
whether the pass was given up. The newest page comes first.
-/

namespace ReplicaSync

/-! ### Passes and calls -/

/-- The number of the pass that begins with this act. -/
def Act.started? : Act → Option Nat
  | .publish (.sync (.started number _)) => some number
  | _ => none

/-- The call of the pipeline, if the act is one. -/
def Act.phase? : Act → Option Call
  | .call .pull => some .pull
  | .call .push => some .push
  | _ => none

/-- The event tells what became of a pass. -/
def SyncEvent.ofPass : SyncEvent → Bool
  | .completed .. | .failed .. | .announced _ => true
  | .started .. | .dropped _ | .deferred _ => false

/-- The event that tells what became of a pass, if the act publishes one. -/
def Act.passEvent? : Act → Option SyncEvent
  | .publish (.sync event) => if event.ofPass then some event else none
  | _ => none

/-- The numbers of the passes that were begun, in their order. -/
def startedPasses (notes : List Note) : List Nat := notes.filterMap (·.act.started?)

/-- The calls of the pipeline in their order. -/
def pipelineCalls (notes : List Note) : List Call := notes.filterMap (·.act.phase?)

section FilterMap

variable {α : Type} (f : Act → Option α)

theorem filterMap_signals (h : ∀ act, act.isSignal = false → f act = none) (notes : List Note) :
    (Note.signals notes).filterMap (fun note => f note.act) =
      notes.filterMap (fun note => f note.act) := by
  induction notes with
  | nil => rfl
  | cons note rest ih =>
    rw [Note.signals_cons]
    cases hsignal : note.act.isSignal with
    | true => simp only [if_true, List.filterMap_cons, ih]
    | false => simp only [Bool.false_eq_true, if_false, List.filterMap_cons, ih, h _ hsignal]

theorem filterMap_ofActs (time number : Nat) (acts : List Act) :
    (Note.ofActs time number acts).filterMap (fun note => f note.act) = acts.filterMap f := by
  unfold Note.ofActs
  rw [List.filterMap_map]
  rfl

end FilterMap

theorem Act.started?_eq_none {act : Act} (h : act.isSignal = false) : act.started? = none := by
  unfold Act.started?
  split
  · cases h
  · rfl

theorem Act.phase?_eq_none {act : Act} (h : act.isSignal = false) : act.phase? = none := by
  unfold Act.phase?
  split
  · cases h
  · cases h
  · rfl

theorem startedPasses_append (notes : List Note) (time number : Nat) (acts : List Act) :
    startedPasses (notes ++ Note.ofActs time number acts) =
      startedPasses notes ++ acts.filterMap Act.started? := by
  unfold startedPasses
  rw [List.filterMap_append, filterMap_ofActs Act.started?]

theorem pipelineCalls_append (notes : List Note) (time number : Nat) (acts : List Act) :
    pipelineCalls (notes ++ Note.ofActs time number acts) =
      pipelineCalls notes ++ acts.filterMap Act.phase? := by
  unfold pipelineCalls
  rw [List.filterMap_append, filterMap_ofActs Act.phase?]

theorem startedPasses_signals (notes : List Note) :
    startedPasses (Note.signals notes) = startedPasses notes :=
  filterMap_signals Act.started? (fun _ => Act.started?_eq_none) notes

theorem pipelineCalls_signals (notes : List Note) :
    pipelineCalls (Note.signals notes) = pipelineCalls notes :=
  filterMap_signals Act.phase? (fun _ => Act.phase?_eq_none) notes

theorem filterMap_phase?_events (events : List SyncEvent) :
    (events.map Act.event).filterMap Act.phase? = [] := by
  rw [List.filterMap_map, List.filterMap_eq_nil_iff]
  intro event _
  rfl

/-- A verdict publishes at most one event, about the pass that ends. -/
theorem Verdict.events_eq {coordinator : Coordinator} {passId : Nat} {stage : FlightStage}
    {answer : Answer} {events : List SyncEvent} {last : PassStatus} {error : Option String}
    (h : Verdict coordinator passId stage answer events last error) :
    events = [] ∨ ∃ event, events = [event] ∧ event.ofPass = true := by
  cases h with
  | unannounced => exact .inl rfl
  | _ => exact .inr ⟨_, rfl, rfl⟩

theorem Verdict.started?_eq_none {coordinator : Coordinator} {passId : Nat} {stage : FlightStage}
    {answer : Answer} {events : List SyncEvent} {last : PassStatus} {error : Option String}
    (h : Verdict coordinator passId stage answer events last error) :
    ∀ act ∈ events.map Act.event, act.started? = none := by
  rcases h.events_eq with rfl | ⟨event, rfl, hevent⟩
  · exact List.forall_mem_nil _
  · rw [List.map_singleton, List.forall_mem_singleton]
    cases event with
    | started => cases hevent
    | _ => rfl

theorem Verdict.filterMap_passEvent? {coordinator : Coordinator} {passId : Nat}
    {stage : FlightStage} {answer : Answer} {events : List SyncEvent} {last : PassStatus}
    {error : Option String} (h : Verdict coordinator passId stage answer events last error) :
    (events.map Act.event).filterMap Act.passEvent? = events := by
  rcases h.events_eq with rfl | ⟨event, rfl, hevent⟩
  · rfl
  · simp [Act.passEvent?, hevent]

/-! ### Boundaries -/

/-- With this act a request of the task begins, is answered or is lost. -/
def Act.isBoundary : Act → Bool
  | .request _ | .settle _ => true
  | .finish ending => ending.isLoss
  | _ => false

/-- In these notes the task makes no request and gets no answer, and it does not go away. -/
def UnderWay (task : Option Nat) (notes : List Note) : Prop :=
  ∀ note ∈ notes, note.task = task → note.act.isBoundary = false

theorem Act.isSignal_of_isBoundary {act : Act} (h : act.isBoundary = true) :
    act.isSignal = true := by
  unfold Act.isBoundary at h
  split at h
  · rfl
  · rfl
  · exact h
  · cases h

theorem underWay_append {task : Option Nat} {a b : List Note} :
    UnderWay task (a ++ b) ↔ UnderWay task a ∧ UnderWay task b :=
  List.forall_mem_append

theorem underWay_signals {task : Option Nat} {notes : List Note} :
    UnderWay task (Note.signals notes) ↔ UnderWay task notes := by
  constructor
  · intro h note hmem htask
    cases hboundary : note.act.isBoundary with
    | false => rfl
    | true =>
      have hsignal := Act.isSignal_of_isBoundary hboundary
      rw [← hboundary]
      exact h note ((Note.mem_signals hsignal).mpr hmem) htask
  · intro h note hmem
    exact h note (List.mem_filter.mp hmem).1

theorem UnderWay.of_own {time number : Nat} {acts : List Act}
    (h : ∀ act ∈ acts, act.isBoundary = false) (task : Option Nat) :
    UnderWay task (Note.ofActs time number acts) := by
  intro note hmem _
  obtain ⟨act, hact, rfl⟩ := List.mem_map.mp hmem
  exact h act hact

theorem UnderWay.of_other {time number : Nat} {task : Option Nat} (h : task ≠ some number)
    (acts : List Act) : UnderWay task (Note.ofActs time number acts) := by
  intro note hmem htask
  obtain ⟨act, _, rfl⟩ := List.mem_map.mp hmem
  exact (h htask.symm).elim

/-! ### The log book -/

/-- A pass, the task that began it, and the signals until the next pass began. -/
structure PassLog where
  number : Nat
  owner : Option Nat
  notes : List Note

namespace PassLog

/-- The page with some more notes. -/
def write (page : PassLog) (notes : List Note) : PassLog :=
  { page with notes := page.notes ++ notes }

/-- Writes notes on the newest page; before the first pass there is none. -/
def extend (book : List PassLog) (notes : List Note) : List PassLog :=
  match book with
  | [] => []
  | page :: older => page.write notes :: older

/-- Enters a note: the beginning of a pass opens a page. -/
def enter (book : List PassLog) (note : Note) : List PassLog :=
  match note.act with
  | .publish (.sync (.started number _)) => ⟨number, note.task, []⟩ :: book
  | _ => extend book [note]

/-- What was published about passes until the next one began. -/
def events (page : PassLog) : List SyncEvent := page.notes.filterMap (·.act.passEvent?)

/-- The number of requests that were deferred during the pass. -/
def deferrals (page : PassLog) : Nat := page.notes.countP fun note => note.act = .settle .deferred

/-- The request that runs the pass is neither answered nor lost. -/
def IsOpen (page : PassLog) : Prop := UnderWay page.owner page.notes

/-- The request that ran the pass was lost before it was answered. -/
def IsAbandoned (page : PassLog) : Prop :=
  ∃ during time ending rest,
    page.notes = during ++ ⟨time, page.owner, .finish ending⟩ :: rest ∧ ending.isLoss = true ∧
      UnderWay page.owner during

end PassLog

/-- The log book of a run. -/
def logBook (notes : List Note) : List PassLog := (Note.signals notes).foldl PassLog.enter []

theorem Note.signals_signals (notes : List Note) :
    Note.signals (Note.signals notes) = Note.signals notes := by
  simp [Note.signals]

theorem logBook_signals (notes : List Note) : logBook (Note.signals notes) = logBook notes := by
  rw [logBook, Note.signals_signals, logBook]

theorem logBook_append (a b : List Note) :
    logBook (a ++ b) = (Note.signals b).foldl PassLog.enter (logBook a) := by
  rw [logBook, Note.signals_append, List.foldl_append, logBook]

theorem enter_extend (book : List PassLog) (note : Note) (h : note.act.started? = none) :
    PassLog.enter book note = PassLog.extend book [note] := by
  unfold PassLog.enter
  split
  · rename_i hact
    simp [hact, Act.started?] at h
  · rfl

theorem extend_extend (book : List PassLog) (a b : List Note) :
    PassLog.extend (PassLog.extend book a) b = PassLog.extend book (a ++ b) := by
  cases book with
  | nil => rfl
  | cons page older => simp [PassLog.extend, PassLog.write]

theorem extend_nil (book : List PassLog) : PassLog.extend book [] = book := by
  cases book with
  | nil => rfl
  | cons page older => simp [PassLog.extend, PassLog.write]

theorem foldl_enter (book : List PassLog) (notes : List Note)
    (h : ∀ note ∈ notes, note.act.started? = none) :
    notes.foldl PassLog.enter book = PassLog.extend book notes := by
  induction notes generalizing book with
  | nil => exact (extend_nil book).symm
  | cons note rest ih =>
    have hrest : ∀ other ∈ rest, other.act.started? = none := fun other hother =>
      h other (List.mem_cons_of_mem _ hother)
    rw [List.foldl_cons, enter_extend book note (h note List.mem_cons_self), ih _ hrest,
      extend_extend, List.singleton_append]

example :
    (logBook [⟨0, some 0, .event (.started 1 "timer")⟩, ⟨0, some 0, .call .pull⟩,
      ⟨0, some 1, .settle .deferred⟩, ⟨0, some 0, .event (.completed 1 false 0)⟩,
      ⟨0, some 0, .event (.started 2 "timer")⟩]).map (fun page => (page.number, page.events)) =
        [(2, []), (1, [.completed 1 false 0])] := by
  decide

/-! ### Places in a history -/

/-- A note of a history that was continued stands in the old part or in the new one. -/
theorem append_eq_split {a b past after : List Note} {note : Note}
    (h : a ++ b = past ++ note :: after) :
    (∃ rest, a = past ++ note :: rest ∧ after = rest ++ b) ∨
      ∃ rest, b = rest ++ note :: after ∧ past = a ++ rest := by
  rcases List.append_eq_append_iff.mp h with ⟨rest, hpast, hb⟩ | ⟨rest, ha, hafter⟩
  · exact .inr ⟨rest, hb, hpast⟩
  · cases rest with
    | nil =>
      refine .inr ⟨[], ?_, ?_⟩
      · simpa using hafter.symm
      · simpa using ha.symm
    | cons first rest =>
      rw [List.cons_append, List.cons.injEq] at hafter
      obtain ⟨rfl, rfl⟩ := hafter
      exact .inl ⟨rest, ha, rfl⟩

/-- A place among the signals is a place among the notes. -/
theorem signals_eq_split {notes past after : List Note} {note : Note}
    (h : Note.signals notes = past ++ note :: after) :
    ∃ before later, notes = before ++ note :: later ∧ Note.signals before = past ∧
      Note.signals later = after := by
  obtain ⟨before, rest, rfl, hbefore, hrest⟩ := List.filter_eq_append_iff.mp h
  obtain ⟨skipped, later, rfl, hskipped, _, hlater⟩ := List.filter_eq_cons_iff.mp hrest
  refine ⟨before ++ skipped, later, by simp, ?_, hlater⟩
  have hnone : Note.signals skipped = [] := by
    unfold Note.signals
    rw [List.filter_eq_nil_iff]
    exact hskipped
  rw [Note.signals_append, hnone, List.append_nil]
  exact hbefore

theorem signals_split {notes past after : List Note} {note : Note}
    (h : notes = past ++ note :: after) (hsignal : note.act.isSignal = true) :
    Note.signals notes = Note.signals past ++ note :: Note.signals after := by
  rw [h, Note.signals_append, Note.signals_cons, if_pos hsignal]

end ReplicaSync
