import ReplicaSync.Proofs.Coordinator.Course

/-!
# Requests and their answers

Of all that a task does, its requests and the answers to them are its exchanges. A request that is
let in shows no other exchange until it is answered, and one that is refused is answered at once.
Main statements: `request_exchanges` and `flight_resume_exchanges`.
-/

namespace ReplicaSync

/-! ### Requests and answers -/

/-- The act is a request or the answer to one. -/
def Act.isExchange : Act → Bool
  | .request _ | .settle _ => true
  | _ => false

/-- The requests and the answers among acts. -/
def exchanges (acts : List Act) : List Act := acts.filter Act.isExchange

/-- The requests of a task and their answers. -/
def exchangesOf (number : Nat) (notes : List Note) : List Note :=
  notes.filter fun note => decide (note.task = some number) && note.act.isExchange

@[simp] theorem exchanges_nil : exchanges [] = [] := rfl

@[simp] theorem exchanges_append (a b : List Act) :
    exchanges (a ++ b) = exchanges a ++ exchanges b :=
  List.filter_append a b

@[simp] theorem exchanges_cons (act : Act) (acts : List Act) :
    exchanges (act :: acts) = if act.isExchange then act :: exchanges acts else exchanges acts :=
  List.filter_cons

@[simp] theorem Flight.isExchange_note (level : LogLevel) (message : String)
    (fields : List (String × String)) :
    (Flight.note level message fields).isExchange = false := rfl

@[simp] theorem Task.isExchange_note (level : LogLevel) (message : String)
    (fields : List (String × String)) :
    (Task.note level message fields).isExchange = false := rfl

@[simp] theorem Task.isExchange_loopRecord (config : WatchConfig) (outcome : RequestOutcome) :
    (Task.loopRecord config outcome).isExchange = false := by
  unfold Task.loopRecord
  split <;> rfl

@[simp] theorem Act.isExchange_finish (ending : Ending) :
    (Act.finish ending).isExchange = false := rfl

@[simp] theorem Act.isExchange_sleep (wakeAt : Nat) : (Act.sleep wakeAt).isExchange = false := rfl

@[simp] theorem exchangesOf_append (number : Nat) (a b : List Note) :
    exchangesOf number (a ++ b) = exchangesOf number a ++ exchangesOf number b :=
  List.filter_append a b

theorem exchangesOf_ofActs (number time : Nat) (acts : List Act) :
    exchangesOf number (Note.ofActs time number acts) =
      Note.ofActs time number (exchanges acts) := by
  unfold exchangesOf Note.ofActs exchanges
  rw [List.filter_map]
  congr 1
  refine List.filter_congr fun act _ => ?_
  simp

theorem exchangesOf_ofActs_other {number other : Nat} (h : other ≠ number) (time : Nat)
    (acts : List Act) : exchangesOf number (Note.ofActs time other acts) = [] := by
  unfold exchangesOf Note.ofActs
  rw [List.filter_map, List.map_eq_nil_iff, List.filter_eq_nil_iff]
  intro act _
  simp [h]

theorem mem_exchangesOf {number time : Nat} {act : Act} {notes : List Note}
    (h : ⟨time, some number, act⟩ ∈ notes) (hact : act.isExchange = true) :
    ⟨time, some number, act⟩ ∈ exchangesOf number notes :=
  List.mem_filter.mpr ⟨h, by simp [hact]⟩

theorem exchange_notMem {number : Nat} {act : Act} {notes : List Note}
    (h : exchangesOf number notes = []) (hact : act.isExchange = true) (time : Nat) :
    ⟨time, some number, act⟩ ∉ notes := by
  intro hmem
  have hexchange := mem_exchangesOf hmem hact
  rw [h] at hexchange
  cases hexchange

theorem exchangesOf_log (number : Nat) (world : World) (task : Option Nat)
    (records : List LogRecord) :
    exchangesOf number (world.notes task (records.map .log)) = [] := by
  unfold exchangesOf World.notes
  rw [List.map_map, List.filter_map, List.map_eq_nil_iff, List.filter_eq_nil_iff]
  intro record _
  simp [Act.isExchange]

/-! ### Stretches of a request -/

/-- The stretch shows these requests and answers, and then the answer if the request is settled. -/
def RequestStep.Exchanges (step : RequestStep) (asked : List Act) : Prop :=
  match step.state with
  | .flying _ => exchanges step.acts = asked
  | .settled outcome => exchanges step.acts = asked ++ [.settle outcome]

theorem exchanges_complaint (message : String) (error : Option SyncError) :
    exchanges (Flight.complaint message error) = [] := by
  cases error <;> rfl

theorem request_exchanges (policy : TriggerPolicy) (shared : Shared) (trigger : Trigger) :
    (Flight.request policy shared trigger).Exchanges [.request trigger] := by
  unfold Flight.request
  split <;> rfl

theorem endPass_exchanges (shared : Shared) (flight : Flight) (last : PassStatus)
    (error : Option String) {acts : List Act} (hacts : exchanges acts = []) :
    (Flight.endPass shared flight last error acts).Exchanges [] := by
  unfold Flight.endPass
  simp only
  split
  · simp only [RequestStep.Exchanges, Flight.takeOff, exchanges_append, exchanges_cons, hacts,
      exchanges_complaint, Flight.isExchange_note]
    rfl
  · simp only [RequestStep.Exchanges, exchanges_append, hacts, exchanges_complaint]
    rfl

theorem afterPush_exchanges (coordinator : Coordinator) (shared : Shared) (flight : Flight)
    (result : PushResult) :
    (Flight.afterPush coordinator shared flight result).Exchanges [] := by
  unfold Flight.afterPush
  split
  · simp only
    split
    · rfl
    · exact endPass_exchanges _ _ _ _ rfl
  · exact endPass_exchanges _ _ _ _ rfl

theorem afterAnnounce_exchanges (coordinator : Coordinator) (shared : Shared) (flight : Flight)
    (result : Except AdapterError Unit) :
    (Flight.afterAnnounce coordinator shared flight result).Exchanges [] := by
  cases result with
  | ok => exact endPass_exchanges _ _ _ _ rfl
  | error => exact endPass_exchanges _ _ _ _ rfl

theorem flight_resume_exchanges (coordinator : Coordinator) (shared : Shared) (flight : Flight)
    (answer : Answer) : (flight.resume coordinator shared answer).Exchanges [] := by
  unfold Flight.resume
  split
  · split
    · rfl
    · exact endPass_exchanges _ _ _ _ rfl
    · rfl
  · split
    · exact afterPush_exchanges _ _ _ _
    · exact endPass_exchanges _ _ _ _ rfl
    · rfl
  · split
    · exact afterAnnounce_exchanges _ _ _ _
    · rfl

end ReplicaSync
