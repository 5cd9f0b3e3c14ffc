import Mathlib.Data.List.Basic
import ReplicaSync.Proofs.Coordinator.Requests
import ReplicaSync.Proofs.Coordinator.SingleFlight

/-!
# The grammar of events

The events of a run come pass by pass. A pass begins with the label of the request that runs it,
and until the next one begins it tells once how it ended, unless its owner is lost inside a phase.
A refused request publishes one event, while another task runs a pass. Main statement:
`event_grammar`.
-/

namespace ReplicaSync

/-! ### Events in their place -/

/-- The event answers a request that is refused in the same move, while another task runs the
pass of the newest page. -/
def RefusalFits (policy : TriggerPolicy) (past : List Note) (time : Nat) (task : Option Nat)
    (event : SyncEvent) (after : List Note) : Prop :=
  ∃ before trigger later page older,
    Note.signals past = before ++ [⟨time, task, .request trigger⟩] ∧
      event = policy.refusal trigger ∧
      Note.signals after = ⟨time, task, .settle policy.refused⟩ :: later ∧
      logBook past = page :: older ∧ page.owner ≠ task ∧ page.IsOpen

/-- The event fits in its place. The beginning of a pass carries the label of the request under
way of its task; what became of a pass is told by the task that runs the pass of the newest page;
a trigger is dropped or deferred by a refusal. -/
def SyncEvent.Fits (policy : TriggerPolicy) (past : List Note) (time : Nat) (task : Option Nat)
    (after : List Note) : SyncEvent → Prop
  | .started _ label =>
    ∃ before asked trigger during,
      past = before ++ ⟨asked, task, .request trigger⟩ :: during ∧ UnderWay task during ∧
        label = trigger.label
  | .completed .. | .failed .. | .announced _ =>
    ∃ page older, logBook past = page :: older ∧ page.owner = task ∧ page.IsOpen
  | .dropped label => RefusalFits policy past time task (.dropped label) after
  | .deferred label => RefusalFits policy past time task (.deferred label) after

/-- The events of a run, given its log book. -/
structure EventGrammar (coordinator : Coordinator) (world : World) (notes : List Note) :
    Prop where
  /-- The passes are numbered from one, and each has a page. -/
  started : startedPasses notes = List.range' 1 (logBook notes).length
  numbers : (logBook notes).map PassLog.number = (startedPasses notes).reverse
  /-- Every pass told how it ended, or was given up before it could, or is running. -/
  passes : ∀ page ∈ logBook notes, page.IsOver coordinator.config.channelKey ∨
    (logBook notes).head? = some page ∧ page.events = [] ∧ page.IsOpen ∧
      ∃ number, page.owner = some number ∧ world.Owns number
  /-- Every event fits in its place. -/
  events : ∀ past time task event after, notes = past ++ ⟨time, task, .event event⟩ :: after →
    event.Fits coordinator.config.policy past time task after
  /-- Every refusal has its event. -/
  refusals : ∀ past time task outcome after, outcome = .dropped ∨ outcome = .deferred →
    notes = past ++ ⟨time, task, .settle outcome⟩ :: after →
    outcome = coordinator.config.policy.refused ∧ ∃ before trigger, Note.signals past =
      before ++ [⟨time, task, .request trigger⟩,
        ⟨time, task, .event (coordinator.config.policy.refusal trigger)⟩]

/-! ### The pages are the passes -/

theorem Act.eq_of_started? {act : Act} {passId : Nat} (h : act.started? = some passId) :
    ∃ label, act = .event (.started passId label) := by
  unfold Act.started? at h
  split at h
  · cases h
    exact ⟨_, rfl⟩
  · cases h

theorem enter_numbers (book : List PassLog) (note : Note) :
    (PassLog.enter book note).map PassLog.number =
      (startedPasses [note]).reverse ++ book.map PassLog.number := by
  cases hstarted : note.act.started? with
  | none =>
    rw [enter_extend book note hstarted]
    cases book <;> simp [startedPasses, hstarted, PassLog.extend, PassLog.write]
  | some passId =>
    obtain ⟨label, hact⟩ := Act.eq_of_started? hstarted
    simp [startedPasses, Act.started?, PassLog.enter, hact]

theorem foldl_enter_numbers (book : List PassLog) (notes : List Note) :
    (notes.foldl PassLog.enter book).map PassLog.number =
      (startedPasses notes).reverse ++ book.map PassLog.number := by
  induction notes generalizing book with
  | nil => rfl
  | cons note rest ih =>
    have hcons : startedPasses (note :: rest) = startedPasses [note] ++ startedPasses rest :=
      List.filterMap_append (l := [note])
    rw [List.foldl_cons, ih, enter_numbers, hcons, List.reverse_append, List.append_assoc]

theorem logBook_numbers (notes : List Note) :
    (logBook notes).map PassLog.number = (startedPasses notes).reverse := by
  rw [logBook, foldl_enter_numbers, startedPasses_signals]
  exact List.append_nil _

/-! ### Passes that events name -/

/-- The pass that an event names. -/
def SyncEvent.passId? : SyncEvent → Option Nat
  | .started passId _ | .completed passId _ _ | .failed passId _ => some passId
  | .dropped _ | .deferred _ | .announced _ => none

/-- The pass that is named by the event that an act publishes. -/
def Act.passId? : Act → Option Nat
  | .publish (.sync event) => event.passId?
  | _ => none

/-- The pass is over: if one is running it is a later one. -/
def Airspace.IsPast (passId : Nat) : Airspace → Prop
  | .clear passes => passId ≤ passes
  | .taken owner => passId < owner.passId

theorem Act.passId?_eq_none {act : Act} (h : act.isSignal = false) : act.passId? = none := by
  unfold Act.passId?
  split
  · cases h
  · rfl

theorem Verdict.passId? {coordinator : Coordinator} {passId : Nat} {stage : FlightStage}
    {answer : Answer} {events : List SyncEvent} {last : PassStatus} {error : Option String}
    (h : Verdict coordinator passId stage answer events last error) :
    ∀ act ∈ events.map Act.event, ∀ named, act.passId? = some named → named = passId := by
  intro act hact named hnamed
  cases h with
  | unannounced => cases hact
  | announced =>
    cases List.mem_singleton.mp hact
    cases hnamed
  | _ =>
    cases List.mem_singleton.mp hact
    exact (Option.some.inj hnamed).symm

/-- After a pass only later ones are named. -/
theorem Leg.names_later {coordinator : Coordinator} {before after : Airspace}
    {heard : Option Answer} {number passId : Nat} {acts : List Act}
    (h : Leg coordinator before heard number acts after) (hpast : before.IsPast passId) :
    after.IsPast passId ∧ ∀ act ∈ acts, act.passId? ≠ some passId := by
  have hverdict : ∀ {owner : Owner} {answer : Answer} {events : List SyncEvent}
      {last : PassStatus} {error : Option String}, passId < owner.passId →
      Verdict coordinator owner.passId owner.stage answer events last error →
      ∀ act ∈ events.map Act.event, act.passId? ≠ some passId := by
    intro owner answer events last error hlater hends act hact hnamed
    have hsame := hends.passId? act hact passId hnamed
    omega
  cases h with
  | quiet => exact ⟨hpast, List.forall_mem_nil _⟩
  | leave => exact ⟨hpast, by simp [Act.passId?]⟩
  | enter passes =>
    have hle : passId ≤ passes := hpast
    refine ⟨Nat.lt_succ_of_le hle, ?_⟩
    simp [Act.passId?, SyncEvent.passId?]
    omega
  | refuse =>
    refine ⟨hpast, ?_⟩
    cases coordinator.config.policy <;>
      simp [Act.passId?, SyncEvent.passId?, TriggerPolicy.refusal]
  | pulled => exact ⟨hpast, by simp [Act.passId?]⟩
  | uploaded owner =>
    have hlt : passId < owner.passId := hpast
    refine ⟨hpast, ?_⟩
    simp [Act.passId?, SyncEvent.passId?]
    omega
  | followUp owner answer events last error _ hends =>
    have hlt : passId < owner.passId := hpast
    refine ⟨Nat.lt_succ_of_lt hlt, List.forall_mem_append.mpr ⟨hverdict hlt hends, ?_⟩⟩
    simp [Act.passId?, SyncEvent.passId?]
    omega
  | land owner answer events last error _ hends =>
    have hlt : passId < owner.passId := hpast
    refine ⟨Nat.le_of_lt hlt, List.forall_mem_append.mpr ⟨hverdict hlt hends, ?_⟩⟩
    simp [Act.passId?]
  | abandon owner =>
    have hlt : passId < owner.passId := hpast
    exact ⟨Nat.le_of_lt hlt, by simp [Act.passId?]⟩

/-! ### Events of a leg -/

section Legs

variable {coordinator : Coordinator} {before after : Airspace} {heard : Option Answer}
variable {number : Nat} {acts : List Act}

/-- Where the events of a leg come from. -/
inductive EventOrigin (coordinator : Coordinator) (before : Airspace) (number : Nat) :
    List Act → SyncEvent → List Act → Prop where
  | enters (passId : Nat) (trigger : Trigger) (b : List Act) :
    EventOrigin coordinator before number [.request trigger] (.started passId trigger.label) b
  | follows (owner : Owner) (events : List SyncEvent) (b : List Act) (h : before = .taken owner)
      (hnumber : number = owner.number) :
    EventOrigin coordinator before number (events.map Act.event)
      (.started (owner.passId + 1) owner.trigger.label) b
  | tells (owner : Owner) (event : SyncEvent) (b : List Act) (h : before = .taken owner)
      (hnumber : number = owner.number) (hevent : event.ofPass = true) :
    EventOrigin coordinator before number [] event b
  | refuses (owner : Owner) (trigger : Trigger) (h : before = .taken owner)
      (hnumber : number ≠ owner.number) :
    EventOrigin coordinator before number [.request trigger]
      (coordinator.config.policy.refusal trigger) [.settle coordinator.config.policy.refused]

/-- Events by which a pass ends come first, if there are any. -/
theorem split_events {events : List SyncEvent} {event : SyncEvent} {a b rest : List Act}
    (h : events = [] ∨ ∃ other, events = [other] ∧ other.ofPass = true)
    (hsplit : a ++ .event event :: b = events.map Act.event ++ rest) :
    a = [] ∧ event.ofPass = true ∨
      ∃ later, a = events.map Act.event ++ later ∧ rest = later ++ .event event :: b := by
  rcases h with rfl | ⟨other, rfl, hother⟩
  · exact .inr ⟨a, rfl, hsplit.symm⟩
  · cases a with
    | nil =>
      cases hsplit
      exact .inl ⟨rfl, hother⟩
    | cons first later =>
      obtain ⟨rfl, hrest⟩ := List.cons.inj hsplit
      exact .inr ⟨later, rfl, hrest.symm⟩

theorem Leg.at_event {event : SyncEvent} {a b : List Act}
    (h : Leg coordinator before heard number (a ++ .event event :: b) after) :
    EventOrigin coordinator before number a event b := by
  generalize hacts : a ++ .event event :: b = acts at h
  cases h with
  | quiet | leave | pulled | abandon => simp [List.append_eq_cons_iff] at hacts
  | enter passes _ trigger =>
    have hrequest : Act.event event ∉ [.request trigger] := by simp
    have hpull : Act.event event ∉ [.call .pull] := by simp
    obtain ⟨rfl, hevent, rfl⟩ := (List.append_cons_inj_of_notMem hrequest hpull).mp hacts.symm
    cases hevent
    exact .enters _ _ _
  | refuse owner _ trigger hother =>
    have hrequest : Act.event event ∉ [.request trigger] := by simp
    have hsettle : Act.event event ∉ [.settle coordinator.config.policy.refused] := by simp
    obtain ⟨rfl, hevent, rfl⟩ := (List.append_cons_inj_of_notMem hrequest hsettle).mp hacts.symm
    cases hevent
    exact .refuses owner trigger rfl hother
  | uploaded owner result hstage huploaded hchannel =>
    have hcall : Act.event event ∉
        [.call (.announce coordinator.config.channelKey Flight.changeMarker)] := by simp
    obtain ⟨rfl, hevent, _⟩ :=
      (List.append_cons_inj_of_notMem List.not_mem_nil hcall).mp hacts.symm
    cases hevent
    exact .tells owner _ _ rfl rfl rfl
  | followUp owner answer events last error hpending hverdict =>
    -- the event is the one of the verdict or the beginning of the next pass
    rcases split_events hverdict.events_eq hacts with ⟨rfl, hevent⟩ | ⟨later, rfl, hrest⟩
    · exact .tells owner event b rfl rfl hevent
    · have hpull : Act.event event ∉ [.call .pull] := by simp
      obtain ⟨rfl, hevent, _⟩ :=
        (List.append_cons_inj_of_notMem List.not_mem_nil hpull).mp hrest
      cases hevent
      rw [List.append_nil]
      exact .follows owner events b rfl rfl
  | land owner answer events last error hpending hverdict =>
    rcases split_events hverdict.events_eq hacts with ⟨rfl, hevent⟩ | ⟨later, rfl, hrest⟩
    · exact .tells owner event b rfl rfl hevent
    · have hmem : Act.event event ∈ later ++ .event event :: b := by simp
      rw [← hrest] at hmem
      simp at hmem

end Legs

/-! ### Courses -/

theorem RefusalFits.append {policy : TriggerPolicy} {past after : List Note} {time : Nat}
    {task : Option Nat} {event : SyncEvent} (h : RefusalFits policy past time task event after)
    (notes : List Note) : RefusalFits policy past time task event (after ++ notes) := by
  obtain ⟨before, trigger, later, page, older, hpast, hevent, hafter, hbook⟩ := h
  refine ⟨before, trigger, later ++ Note.signals notes, page, older, hpast, hevent, ?_, hbook⟩
  rw [Note.signals_append, hafter, List.cons_append]

theorem SyncEvent.Fits.append {policy : TriggerPolicy} {past after : List Note} {time : Nat}
    {task : Option Nat} {event : SyncEvent} (h : event.Fits policy past time task after)
    (notes : List Note) : event.Fits policy past time task (after ++ notes) := by
  cases event with
  | dropped | deferred => exact RefusalFits.append h notes
  | started | completed | failed | announced => exact h

/-- The events of a course. -/
structure Spoken (coordinator : Coordinator) (notes : List Note) (airspace : Airspace) : Prop
    extends Logged coordinator.config.channelKey notes airspace where
  events : ∀ past time task event after, notes = past ++ ⟨time, task, .event event⟩ :: after →
    event.Fits coordinator.config.policy past time task after
  refusals : ∀ past time task outcome after, outcome = .dropped ∨ outcome = .deferred →
    notes = past ++ ⟨time, task, .settle outcome⟩ :: after →
    outcome = coordinator.config.policy.refused ∧ ∃ before trigger, Note.signals past =
      before ++ [⟨time, task, .request trigger⟩,
        ⟨time, task, .event (coordinator.config.policy.refusal trigger)⟩]

theorem Spoken.new (coordinator : Coordinator) : Spoken coordinator [] (.clear 0) where
  toLogged := .new _
  events := fun past _ _ _ _ h => by simp at h
  refusals := fun past _ _ _ _ _ h => by simp at h

section Courses

variable {coordinator : Coordinator} {notes : List Note} {airspace next : Airspace}
variable {heard : Option Answer} {number : Nat} {acts : List Act}

theorem Spoken.refusalFits {owner : Owner} (h : Spoken coordinator notes (.taken owner))
    (hnumber : number ≠ owner.number) (trigger : Trigger) (time : Nat) :
    RefusalFits coordinator.config.policy (notes ++ Note.ofActs time number [.request trigger])
      time (some number) (coordinator.config.policy.refusal trigger)
      (Note.ofActs time number [.settle coordinator.config.policy.refused]) := by
  obtain ⟨page, older, hbook, hpage, _⟩ := h.book
  have hlonger := hpage.other time [.request trigger] owner.pending hnumber rfl (by simp)
  refine ⟨Note.signals notes, trigger, [], page.write _, older, ?_, rfl, rfl, ?_, ?_,
    hlonger.isOpen⟩
  · rw [Note.signals_append]
    rfl
  · rw [logBook_ofActs rfl, hbook, foldl_stay (by simp [Act.started?])]
    rfl
  · intro hsame
    rw [hlonger.held] at hsame
    exact hnumber (Option.some.inj hsame).symm

theorem Spoken.eventFits (h : Spoken coordinator notes airspace) {a b : List Act}
    {event : SyncEvent} (horigin : EventOrigin coordinator airspace number a event b)
    (time : Nat) :
    event.Fits coordinator.config.policy (notes ++ Note.ofActs time number a) time (some number)
      (Note.ofActs time number b) := by
  cases horigin with
  | enters passId trigger =>
    exact ⟨notes, time, trigger, [], rfl, List.forall_mem_nil _, rfl⟩
  | follows owner events _ hbefore hnumber =>
    obtain ⟨last, ⟨before, asked, during, earlier, rfl, hduring, _⟩, _⟩ :=
      h.airborne owner hbefore
    subst hnumber
    refine ⟨before, asked, owner.trigger,
      during ++ Note.ofActs time owner.number (events.map Act.event), ?_,
      underWay_append.mpr ⟨hduring, .of_own isBoundary_events _⟩, rfl⟩
    rw [List.append_assoc, List.cons_append]
  | tells owner _ _ hbefore hnumber hevent =>
    subst hbefore hnumber
    obtain ⟨page, older, hbook, hpage, _⟩ := h.book
    have hfits : ∃ page older, logBook (notes ++ Note.ofActs time owner.number []) =
        page :: older ∧ page.owner = some owner.number ∧ page.IsOpen := by
      refine ⟨page, older, ?_, hpage.held, hpage.isOpen⟩
      rw [← hbook]
      exact congrArg logBook (List.append_nil notes)
    cases event with
    | completed | failed | announced => exact hfits
    | started | dropped | deferred => cases hevent
  | refuses owner trigger hbefore hnumber =>
    subst hbefore
    have hfits := h.refusalFits hnumber trigger time
    cases hpolicy : coordinator.config.policy with
    | drop | coalesce =>
      rw [hpolicy] at hfits
      exact hfits

theorem Spoken.leg (h : Spoken coordinator notes airspace)
    (hleg : Leg coordinator airspace heard number acts next) (time : Nat) :
    Spoken coordinator (notes ++ Note.ofActs time number acts) next := by
  refine ⟨h.toLogged.leg hleg time, ?_, ?_⟩
  · intro past moment task event after hsplit
    rcases Note.append_ofActs_eq_split hsplit with
      ⟨rest, hold, rfl⟩ | ⟨a, b, rfl, rfl, rfl, rfl, rfl⟩
    · exact (h.events past moment task event rest hold).append _
    · exact h.eventFits hleg.at_event moment
  · intro past moment task outcome after houtcome hsplit
    rcases Note.append_ofActs_eq_split hsplit with
      ⟨rest, hold, rfl⟩ | ⟨a, b, rfl, rfl, rfl, rfl, rfl⟩
    · exact h.refusals past moment task outcome rest houtcome hold
    · obtain ⟨owner, trigger, rfl, hother, rfl, hacts, rfl⟩ := hleg.of_refused houtcome (by simp)
      have hfirst : Act.settle coordinator.config.policy.refused ∉
          [.request trigger, .event (coordinator.config.policy.refusal trigger)] := by simp
      obtain ⟨rfl, _, _⟩ := (List.append_cons_inj_of_notMem hfirst List.not_mem_nil).mp hacts.symm
      refine ⟨rfl, Note.signals notes, trigger, ?_⟩
      rw [Note.signals_append]
      rfl

end Courses

/-! ### Runs -/

theorem RefusalFits.of_signals {policy : TriggerPolicy} {past after : List Note} {time : Nat}
    {task : Option Nat} {event : SyncEvent}
    (h : RefusalFits policy (Note.signals past) time task event (Note.signals after)) :
    RefusalFits policy past time task event after := by
  unfold RefusalFits at h
  rw [Note.signals_signals, Note.signals_signals, logBook_signals] at h
  exact h

theorem SyncEvent.Fits.of_signals {policy : TriggerPolicy} {past after : List Note} {time : Nat}
    {task : Option Nat} {event : SyncEvent}
    (h : event.Fits policy (Note.signals past) time task (Note.signals after)) :
    event.Fits policy past time task after := by
  cases event with
  | started passId label =>
    obtain ⟨before, asked, trigger, during, hpast, hduring, hlabel⟩ := h
    obtain ⟨first, rest, rfl, _, rfl⟩ := signals_eq_split hpast
    exact ⟨first, asked, trigger, rest, rfl, underWay_signals.mp hduring, hlabel⟩
  | dropped | deferred => exact RefusalFits.of_signals h
  | completed | failed | announced =>
    obtain ⟨page, older, hbook, hpage⟩ := h
    rw [logBook_signals] at hbook
    exact ⟨page, older, hbook, hpage⟩

/-- A page of a course is over, or it is the newest one and its pass has told nothing yet. -/
theorem BookShows.isOver_or {channel : String} {book : List PassLog} {airspace : Airspace}
    (h : BookShows channel book airspace) :
    ∀ page ∈ book, page.IsOver channel ∨
      book.head? = some page ∧ page.events = [] ∧ page.IsOpen ∧
        ∃ owner, airspace = .taken owner ∧ page.owner = some owner.number := by
  cases airspace with
  | clear passes => exact fun page hmem => .inl (h page hmem)
  | taken owner =>
    obtain ⟨newest, older, rfl, hnewest, holder⟩ := h
    rw [List.forall_mem_cons]
    refine ⟨?_, fun page hmem => .inl (holder page hmem)⟩
    have hevents := hnewest.events
    cases hstage : owner.stage with
    | pulling | pushing =>
      rw [hstage] at hevents
      exact .inr ⟨rfl, hevents, hnewest.isOpen, owner, rfl, hnewest.held⟩
    | announcing =>
      refine .inl (.inl ⟨hnewest.pulled, ?_⟩)
      rw [hevents, hnewest.number, hstage]
      exact .changed 0

/-- In every run the events follow the grammar: the passes begin in the order of their numbers,
from one, each with the label of the request that runs it; each tells once how it ended and
announces a change only after that, unless its request is lost before or it still runs; each
refused request publishes one event with its own label, while another task runs a pass; and there
are no other events of passes or triggers. -/
theorem event_grammar (coordinator : Coordinator) (resolve : Option (Path → Option Path))
    (bus : EventBus) (moves : List Move) :
    let start := World.new coordinator resolve bus
    EventGrammar coordinator (start.run moves).1 (start.run moves).2 := by
  intro start
  obtain ⟨airspace, hshows, hspoken⟩ := World.course_induction coordinator resolve bus
    (P := fun _ notes airspace => Spoken coordinator notes airspace)
    (Spoken.new coordinator)
    (fun _ _ _ _ time _ _ _ _ hleg hspoken => hspoken.leg hleg time) moves
  have hnumbers := logBook_numbers (start.run moves).2
  refine ⟨?_, hnumbers, ?_, ?_, ?_⟩
  · obtain ⟨_, _, htell⟩ := World.callsTell coordinator resolve bus moves
    have hstarted := htell.started
    have hlength := congrArg List.length hnumbers
    rw [startedPasses_signals] at hstarted
    rw [hstarted, List.length_map, List.length_reverse, List.length_range'] at hlength
    rw [hstarted, hlength]
  · intro page hmem
    have hbook := hspoken.book
    rw [logBook_signals] at hbook
    rcases hbook.isOver_or page hmem with hover | ⟨hhead, hevents, hopen, owner, rfl, hheld⟩
    · exact .inl hover
    · exact .inr ⟨hhead, hevents, hopen, owner.number, hheld,
        (hshows.owns_iff _).mpr ⟨owner, rfl, rfl⟩⟩
  · intro past time task event after hsplit
    exact (hspoken.events _ _ _ _ _ (signals_split hsplit rfl)).of_signals
  · intro past time task outcome after houtcome hsplit
    have hfits := hspoken.refusals _ _ _ _ _ houtcome (signals_split hsplit rfl)
    rw [Note.signals_signals] at hfits
    exact hfits

end ReplicaSync
