import ReplicaSync.Coordinator.World

/-!
# Legs of a flight

Seen from the passes, a coordinator is in one of two situations: nobody owns the gate, or one task
does and waits for an answer. A leg is what one move does to that situation, with the acts that
show it: requests and their answers, calls of a pass, the events of passes, and tasks that go away
before their time. Records, the watcher and the sleep of a loop do not count.
-/

namespace ReplicaSync

/-! ### Signals -/

/-- The ways in which a task goes away before its time. -/
def Ending.isLoss : Ending → Bool
  | .panicked | .aborted => true
  | _ => false

/-- The act shows something about passes or about who owns them. -/
def Act.isSignal : Act → Bool
  | .request _ | .settle _ => true
  | .call .pull | .call .push | .call (.announce _ _) => true
  | .publish (.sync _) => true
  | .finish ending => ending.isLoss
  | _ => false

/-- The signals among acts. -/
def signals (acts : List Act) : List Act := acts.filter Act.isSignal

/-- The notes of signals. -/
def Note.signals (notes : List Note) : List Note := notes.filter (·.act.isSignal)

@[simp] theorem signals_nil : signals [] = [] := rfl

@[simp] theorem signals_append (a b : List Act) : signals (a ++ b) = signals a ++ signals b :=
  List.filter_append a b

@[simp] theorem signals_cons (act : Act) (acts : List Act) :
    signals (act :: acts) = if act.isSignal then act :: signals acts else signals acts :=
  List.filter_cons

@[simp] theorem Note.signals_nil : Note.signals [] = [] := rfl

@[simp] theorem Note.signals_append (a b : List Note) :
    Note.signals (a ++ b) = Note.signals a ++ Note.signals b :=
  List.filter_append a b

theorem Note.signals_cons (note : Note) (notes : List Note) :
    Note.signals (note :: notes) =
      if note.act.isSignal then note :: Note.signals notes else Note.signals notes :=
  List.filter_cons

/-- Acts of a task at a time, as notes. -/
def Note.ofActs (time number : Nat) (acts : List Act) : List Note :=
  acts.map fun act => ⟨time, some number, act⟩

theorem Note.signals_ofActs (time number : Nat) (acts : List Act) :
    Note.signals (Note.ofActs time number acts) =
      Note.ofActs time number (ReplicaSync.signals acts) := by
  unfold Note.signals Note.ofActs ReplicaSync.signals
  rw [List.filter_map]
  rfl

theorem Note.mem_signals {note : Note} {notes : List Note} (h : note.act.isSignal = true) :
    note ∈ Note.signals notes ↔ note ∈ notes := by
  simp [Note.signals, h]

theorem Note.mem_ofActs {time number other moment : Nat} {act : Act} {acts : List Act} :
    (⟨moment, some other, act⟩ : Note) ∈ Note.ofActs time number acts ↔
      moment = time ∧ other = number ∧ act ∈ acts := by
  simp only [Note.ofActs, List.mem_map, Note.mk.injEq, Option.some.injEq]
  constructor
  · rintro ⟨act', hmem, rfl, rfl, rfl⟩
    exact ⟨rfl, rfl, hmem⟩
  · rintro ⟨rfl, rfl, hmem⟩
    exact ⟨act, hmem, rfl, rfl, rfl⟩

/-! ### Situations -/

/-- The request that owns the gate, and the task that made it. -/
structure Owner where
  number : Nat
  trigger : Trigger
  /-- The passes begun by the request. -/
  passes : Nat
  /-- The number of its running pass among all passes. -/
  passId : Nat
  stage : FlightStage
  /-- A follow-up pass is owed. -/
  pending : Bool
  deriving DecidableEq

/-- Whether a pass is running, and whose. -/
inductive Airspace where
  /-- Nobody owns the gate; so many passes were begun. -/
  | clear (passes : Nat)
  | taken (owner : Owner)
  deriving DecidableEq

/-- The flight of the task that owns the gate; it has not given the gate back. -/
def Owner.flight (owner : Owner) : Flight :=
  ⟨owner.trigger, ⟨false⟩, owner.passes, owner.passId, owner.stage⟩

namespace Airspace

/-- The task that owns the gate. -/
def owner? : Airspace → Option Owner
  | .clear _ => none
  | .taken owner => some owner

/-- The number of passes begun. -/
def passes : Airspace → Nat
  | .clear passes => passes
  | .taken owner => owner.passId

/-- The gate that goes with the situation. -/
def gate : Airspace → Gate
  | .clear _ => .new
  | .taken owner => ⟨.running, owner.pending⟩

/-- What the tasks share. -/
def shared (airspace : Airspace) : Shared := ⟨airspace.gate, airspace.passes⟩

/-- The flight of a task, if it owns the gate. -/
def flight? (airspace : Airspace) (number : Nat) : Option Flight :=
  match airspace with
  | .clear _ => none
  | .taken owner => if owner.number = number then some owner.flight else none

end Airspace

/-! ### Legs -/

/-- The answer fits the call for which a flight waits. -/
def FlightStage.awaits : FlightStage → Answer → Bool
  | .pulling, .pulled _ => true
  | .pushing, .pushed _ => true
  | .announcing, .replied _ => true
  | _, _ => false

/-- The event of a refused request. -/
def TriggerPolicy.refusal (policy : TriggerPolicy) (trigger : Trigger) : SyncEvent :=
  match policy with
  | .drop => .dropped trigger.label
  | .coalesce => .deferred trigger.label

/-- The answer to a refused request. -/
def TriggerPolicy.refused : TriggerPolicy → RequestOutcome
  | .drop => .dropped
  | .coalesce => .deferred

/-- An answer ends the pass: the events by which it ends, its status and its error. -/
inductive Verdict (coordinator : Coordinator) (passId : Nat) :
    FlightStage → Answer → List SyncEvent → PassStatus → Option String → Prop where
  | pullFailed (cause : AdapterError) :
    Verdict coordinator passId .pulling (.pulled (.error cause))
      [.failed passId (SyncError.pull cause).message] .failed
      (some (SyncError.pull cause).message)
  | pushFailed (cause : AdapterError) :
    Verdict coordinator passId .pushing (.pushed (.error cause))
      [.failed passId (SyncError.push cause).message] .failed
      (some (SyncError.push cause).message)
  | unchanged (result : PushResult) (h : result.uploaded = false) :
    Verdict coordinator passId .pushing (.pushed (.ok result))
      [.completed passId false 0] .noChanges none
  | changed (result : PushResult) (h : result.uploaded = true)
      (hchannel : coordinator.hasChannel = false) :
    Verdict coordinator passId .pushing (.pushed (.ok result))
      [.completed passId true 0] .changes none
  | announced :
    Verdict coordinator passId .announcing (.replied (.ok ()))
      [.announced coordinator.config.channelKey] .changes none
  | unannounced (cause : AdapterError) :
    Verdict coordinator passId .announcing (.replied (.error cause)) [] .changes none

/-- The act that publishes an event of a pass. -/
abbrev Act.event (event : SyncEvent) : Act := .publish (.sync event)

/-- What one move does to the situation: the answer that the owner of the gate hears in it, if it
hears one, and the signals of the task that moves. -/
inductive Leg (coordinator : Coordinator) :
    Airspace → Option Answer → Nat → List Act → Airspace → Prop where
  /-- Nothing that counts; an answer that the owner does not wait for is not heard. -/
  | quiet (airspace : Airspace) (number : Nat) (heard : Option Answer)
      (h : ∀ owner, airspace.owner? = some owner →
        ∀ answer, heard = some answer → owner.stage.awaits answer = false) :
    Leg coordinator airspace heard number [] airspace
  /-- A task goes away that owns nothing. -/
  | leave (airspace : Airspace) (number : Nat) (ending : Ending) (hloss : ending.isLoss = true)
      (h : airspace.flight? number = none) :
    Leg coordinator airspace none number [.finish ending] airspace
  /-- A request is let in and begins its first pass. -/
  | enter (passes number : Nat) (trigger : Trigger) :
    Leg coordinator (.clear passes) none number
      [.request trigger, .event (.started (passes + 1) trigger.label), .call .pull]
      (.taken ⟨number, trigger, 1, passes + 1, .pulling, false⟩)
  /-- A request is refused, and remembered under the coalescing policy. -/
  | refuse (owner : Owner) (number : Nat) (trigger : Trigger) (h : number ≠ owner.number) :
    Leg coordinator (.taken owner) none number
      [.request trigger, .event (coordinator.config.policy.refusal trigger),
        .settle coordinator.config.policy.refused]
      (.taken { owner with
        pending := owner.pending || decide (coordinator.config.policy = .coalesce) })
  /-- The pull went well. -/
  | pulled (owner : Owner) (result : PullResult) (h : owner.stage = .pulling) :
    Leg coordinator (.taken owner) (some (.pulled (.ok result))) owner.number
      [.call .push] (.taken { owner with stage := .pushing })
  /-- The push uploaded a change that is announced. -/
  | uploaded (owner : Owner) (result : PushResult) (h : owner.stage = .pushing)
      (huploaded : result.uploaded = true) (hchannel : coordinator.hasChannel = true) :
    Leg coordinator (.taken owner) (some (.pushed (.ok result))) owner.number
      [.event (.completed owner.passId true 0),
        .call (.announce coordinator.config.channelKey Flight.changeMarker)]
      (.taken { owner with stage := .announcing })
  /-- The pass ends and one is owed: the next pass of the same request begins. -/
  | followUp (owner : Owner) (answer : Answer) (events : List SyncEvent) (last : PassStatus)
      (error : Option String) (hpending : owner.pending = true)
      (h : Verdict coordinator owner.passId owner.stage answer events last error) :
    Leg coordinator (.taken owner) (some answer) owner.number
      (events.map Act.event ++
        [.event (.started (owner.passId + 1) owner.trigger.label), .call .pull])
      (.taken ⟨owner.number, owner.trigger, owner.passes + 1, owner.passId + 1, .pulling, false⟩)
  /-- The pass ends and none is owed: the request is answered and the gate given back. -/
  | land (owner : Owner) (answer : Answer) (events : List SyncEvent) (last : PassStatus)
      (error : Option String) (hpending : owner.pending = false)
      (h : Verdict coordinator owner.passId owner.stage answer events last error) :
    Leg coordinator (.taken owner) (some answer) owner.number
      (events.map Act.event ++ [.settle (.executed ⟨owner.passes, last, error⟩)])
      (.clear owner.passId)
  /-- The owner goes away; its pass is given up. -/
  | abandon (owner : Owner) (ending : Ending) (hloss : ending.isLoss = true) :
    Leg coordinator (.taken owner) none owner.number [.finish ending] (.clear owner.passId)

namespace Leg

variable {coordinator : Coordinator} {before after : Airspace} {heard : Option Answer}
variable {number : Nat} {acts : List Act}

/-- A request finds the gate free and is let in, or finds an owner and is refused. -/
theorem of_request (h : Leg coordinator before heard number acts after) {trigger : Trigger}
    (hmem : .request trigger ∈ acts) :
    (∃ passes, before = .clear passes ∧
      acts = [.request trigger, .event (.started (passes + 1) trigger.label), .call .pull] ∧
      after = .taken ⟨number, trigger, 1, passes + 1, .pulling, false⟩) ∨
    ∃ owner, before = .taken owner ∧ number ≠ owner.number ∧
      acts = [.request trigger, .event (coordinator.config.policy.refusal trigger),
        .settle coordinator.config.policy.refused] ∧
      after = .taken { owner with
        pending := owner.pending || decide (coordinator.config.policy = .coalesce) } := by
  cases h with
  | enter passes _ other =>
    have htrigger : trigger = other := by simpa using hmem
    subst htrigger
    exact .inl ⟨passes, rfl, rfl, rfl⟩
  | refuse owner _ other hother =>
    have htrigger : trigger = other := by simpa using hmem
    subst htrigger
    exact .inr ⟨owner, rfl, hother, rfl, rfl⟩
  | quiet | leave | pulled | uploaded | followUp | land | abandon => simp at hmem

/-- A refusal answers the request of the same move, and another task owns the gate. -/
theorem of_refused (h : Leg coordinator before heard number acts after) {outcome : RequestOutcome}
    (hrefused : outcome = .dropped ∨ outcome = .deferred) (hmem : .settle outcome ∈ acts) :
    ∃ owner trigger, before = .taken owner ∧ number ≠ owner.number ∧
      outcome = coordinator.config.policy.refused ∧
      acts = [.request trigger, .event (coordinator.config.policy.refusal trigger),
        .settle coordinator.config.policy.refused] ∧
      after = .taken { owner with
        pending := owner.pending || decide (coordinator.config.policy = .coalesce) } := by
  cases h with
  | refuse owner _ trigger hother =>
    have houtcome : outcome = coordinator.config.policy.refused := by simpa using hmem
    exact ⟨owner, trigger, rfl, hother, houtcome, rfl, rfl⟩
  | land owner answer events last error hpending hverdict =>
    have houtcome : outcome = .executed ⟨owner.passes, last, error⟩ := by simpa using hmem
    rcases hrefused with rfl | rfl <;> cases houtcome
  | quiet | leave | enter | pulled | uploaded | followUp | abandon => simp at hmem

end Leg

end ReplicaSync
