import ReplicaSync.Proofs.Event.Reading

/-!
# What is done with a bus

A bus is used through its handles, by which events are emitted and streams begun, and through its
streams, which are read at once, waiting, or turn by turn of either loop, in any order. What is
emitted and what the streams are given is noted. Main statement: `step_tryRecv_eq_looks`.
-/

namespace ReplicaSync

/-! ### Moves -/

/-- What can be done with a bus. A handle that is gone does nothing. -/
inductive BusMove where
  | subscribe (handle : Nat) (filter : Option (Event → Bool))
  | emit (handle : Nat) (event : Event)
  | cloneHandle (handle : Nat)
  | dropHandle (handle : Nat)
  | unsubscribe (number : Nat)
  /-- One turn of the loop that reads a stream. -/
  | look (number : Nat)
  | tryRecv (number : Nat)
  | recv (number : Nat)

/-- What is noted of a move. -/
inductive BusNote where
  | emitted (event : Event)
  | skipped (number : Nat) (event : Event)
  /-- The stream gave this, or nothing yet. -/
  | answered (number : Nat) (reading : Option Reading)

namespace EventBus

/-- The handle is not given up. -/
def isAlive (bus : EventBus) (handle : Nat) : Bool := bus.handles[handle]?.getD false

/-- What is noted of a look: an event that is not wanted is no answer yet. -/
def noteOfLook (number : Nat) (stream : EventStream) : Option Reading → BusNote
  | some (.event event) =>
    if stream.accepts event then .answered number (some (.event event)) else .skipped number event
  | reading => .answered number reading

def look (bus : EventBus) (number : Nat) : EventBus × List BusNote :=
  match bus.stream? number with
  | none => (bus, [])
  | some stream =>
    let (reading, after) := stream.look bus.ring bus.isOpen
    (bus.setStream number (some after), [noteOfLook number stream reading])

/-- What is noted of a whole read. -/
def notesOfRead (bus : EventBus) (number : Nat) (answer : Option (Option Reading)) :
    List BusNote :=
  match bus.stream? number, answer with
  | some stream, some reading =>
    (stream.passedOver bus.ring).map (.skipped number) ++ [.answered number reading]
  | _, _ => []

def step (bus : EventBus) : BusMove → EventBus × List BusNote
  | .subscribe handle filter =>
    if bus.isAlive handle then ((bus.subscribe filter).1, []) else (bus, [])
  | .emit handle event =>
    if bus.isAlive handle then ((bus.emit event).1, [.emitted event]) else (bus, [])
  | .cloneHandle handle => if bus.isAlive handle then (bus.cloneHandle.1, []) else (bus, [])
  | .dropHandle handle => ((bus.dropHandle handle).1, [])
  | .unsubscribe number => ((bus.unsubscribe number).1, [])
  | .look number => bus.look number
  | .tryRecv number => ((bus.tryRecv number).1, bus.notesOfRead number (bus.tryRecv number).2)
  | .recv number => ((bus.recv number).1, bus.notesOfRead number (bus.recv number).2)

def run (bus : EventBus) : List BusMove → EventBus × List BusNote
  | [] => (bus, [])
  | move :: rest =>
    let (after, notes) := bus.step move
    let (last, more) := after.run rest
    (last, notes ++ more)

/-! ### Reads as looks -/

variable {bus : EventBus} {number : Nat} {stream : EventStream} {move : BusMove}

theorem run_cons (move : BusMove) (rest : List BusMove) : bus.run (move :: rest) =
    (((bus.step move).1.run rest).1, (bus.step move).2 ++ ((bus.step move).1.run rest).2) := rfl

theorem stream?_setStream (h : bus.stream? number = some stream) (other : Option EventStream) :
    (bus.setStream number other).stream? number = other := by
  have hlt : number < bus.streams.length := by
    cases hget : bus.streams[number]? with
    | none => simp [stream?, hget] at h
    | some _ => exact (List.getElem?_eq_some_iff.mp hget).1
  simp [stream?, setStream, hlt]

theorem stream?_setStream_ne {other : Nat} (h : other ≠ number) (stream : Option EventStream) :
    (bus.setStream other stream).stream? number = bus.stream? number := by
  simp [stream?, setStream, List.getElem?_set_ne h]

theorem setStream_setStream (one other : Option EventStream) :
    (bus.setStream number one).setStream number other = bus.setStream number other := by
  simp [setStream]

theorem recv_eq_tryRecv (bus : EventBus) (number : Nat) :
    bus.recv number = bus.tryRecv number := by
  simp only [recv, tryRecv, EventStream.recv_eq_tryRecv]

theorem step_tryRecv (h : bus.stream? number = some stream) : bus.step (.tryRecv number) =
    (bus.setStream number (some (stream.tryRecv bus.ring bus.isOpen).2),
      (stream.passedOver bus.ring).map (.skipped number) ++
        [.answered number (stream.tryRecv bus.ring bus.isOpen).1]) := by
  simp only [step, tryRecv, notesOfRead, h]

theorem step_look (h : bus.stream? number = some stream) : bus.step (.look number) =
    (bus.setStream number (some (stream.look bus.ring bus.isOpen).2),
      [noteOfLook number stream (stream.look bus.ring bus.isOpen).1]) := by
  simp only [step, look, h]

theorem noteOfLook_eq_answered {reading : Option Reading}
    (h : ∀ event, reading = some (.event event) → stream.accepts event = true) :
    noteOfLook number stream reading = .answered number reading := by
  unfold noteOfLook
  split
  · rename_i event
    rw [if_pos (h event rfl)]
  · rfl

/-- A whole read is a look for each event that is passed over and one more. -/
theorem step_tryRecv_eq_looks (h : bus.stream? number = some stream) :
    bus.step (.tryRecv number) =
      bus.run (List.replicate ((stream.passedOver bus.ring).length + 1) (.look number)) := by
  generalize hpassed : stream.passedOver bus.ring = passed
  -- one look for each of these events; the read goes on where the look leaves the stream
  induction passed generalizing bus stream with
  | nil =>
    have hstop : stream.tryRecv bus.ring bus.isOpen = stream.look bus.ring bus.isOpen := by
      apply EventStream.tryRecv_stop
      intro event after hlook
      exact EventStream.look_of_passedOver_nil hpassed hlook
    have hnote : noteOfLook number stream (stream.look bus.ring bus.isOpen).1 =
        .answered number (stream.look bus.ring bus.isOpen).1 := by
      apply noteOfLook_eq_answered
      intro event hevent
      exact EventStream.look_of_passedOver_nil hpassed (Prod.ext hevent rfl)
    show _ = bus.run [.look number]
    rw [step_tryRecv h, run_cons, step_look h, hpassed, hstop, hnote]
    rfl
  | cons event more ih =>
    obtain ⟨hlook, hskip, hmore⟩ := EventStream.look_of_passedOver bus.isOpen hpassed
    have hafter := stream?_setStream h (some (stream.moveTo (stream.next + 1)))
    have hrest := ih hafter hmore
    rw [List.length_cons, List.replicate_succ, run_cons, step_look h, hlook]
    simp only
    rw [← hrest, step_tryRecv h, step_tryRecv hafter, EventStream.tryRecv_skip hlook hskip, hpassed,
      setStream_setStream]
    have hnote : noteOfLook number stream (some (.event event)) = .skipped number event := by
      simp [noteOfLook, hskip]
    rw [hnote]
    show _ = (_, _ ++ (((stream.moveTo (stream.next + 1)).passedOver bus.ring).map _ ++ _))
    rw [hmore]
    rfl

end EventBus

end ReplicaSync
