import ReplicaSync.Event.Basic

/-!
# The event bus

A bus keeps the last events in a ring. Each stream remembers how far it has read; a stream that
fell behind by more than the ring holds is told once how many events it missed and goes on with
the oldest one kept. Events are published only while somebody listens. A stream may have a filter,
which passes over events but never over the notice of missed ones. When the last handle of the bus
is gone, what is kept is still read before the stream ends.
-/

namespace ReplicaSync

/-! ### The ring -/

/-- The last events, oldest first, and the number of all that were published. -/
structure EventRing where
  size : Nat
  sent : Nat
  kept : List Event
  size_pos : 0 < size
  kept_length : kept.length = min sent size

namespace EventRing

/-- The largest capacity: the slots of a ring take 64 bytes each, and together fewer than
`2 ^ 63`. -/
def maxCapacity : Nat := Nat.pow 2 56

/-- The ring for a capacity: the size is the next power of two. A capacity of zero is refused, and
so is one that is too large. -/
def ofCapacity? (capacity : Nat) : Option EventRing :=
  if capacity = 0 || maxCapacity < capacity then none
  else some
    { size := capacity.nextPowerOfTwo
      sent := 0
      kept := []
      size_pos := Nat.pos_of_isPowerOfTwo (Nat.isPowerOfTwo_nextPowerOfTwo capacity)
      kept_length := by simp }

/-- The ring of a bus for which no capacity is given. -/
def standard : EventRing :=
  { size := 128, sent := 0, kept := [], size_pos := by decide, kept_length := by simp }

/-- Adds an event; the oldest one makes room for it if the ring is full. -/
def publish (ring : EventRing) (event : Event) : EventRing :=
  { size := ring.size
    sent := ring.sent + 1
    kept := (ring.kept ++ [event]).drop (ring.kept.length + 1 - ring.size)
    size_pos := ring.size_pos
    kept_length := by
      have hpos := ring.size_pos
      have hlength := ring.kept_length
      simp only [List.length_drop, List.length_append, List.length_singleton]
      omega }

/-- The number of events published from a position on. -/
def behind (ring : EventRing) (next : Nat) : Nat := ring.sent - next

/-- The kept events from a position on, oldest first. -/
def unread (ring : EventRing) (next : Nat) : List Event :=
  ring.kept.drop (ring.kept.length - ring.behind next)

/-- The position of the oldest kept event. -/
def oldest (ring : EventRing) : Nat := ring.sent - ring.kept.length

theorem unread_length (ring : EventRing) (next : Nat) (h : ring.behind next ≤ ring.size) :
    (ring.unread next).length = ring.behind next := by
  have hlength := ring.kept_length
  simp only [unread, List.length_drop]
  simp only [behind] at h ⊢
  omega

end EventRing

/-! ### Streams -/

/-- A reader of the bus: the position of the next event, and which events it wants. -/
structure EventStream where
  next : Nat
  filter : Option (Event → Bool)

/-- What reading a stream gives. -/
inductive Reading where
  | event (event : Event)
  /-- So many events were overwritten before they were read. -/
  | lagged (missed : Nat)
  | closed
  deriving DecidableEq, Repr

namespace EventStream

/-- The stream wants the event. -/
def accepts (stream : EventStream) (event : Event) : Bool :=
  match stream.filter with
  | some wanted => wanted event
  | none => true

/-- The stream, read up to a position. -/
def moveTo (stream : EventStream) (next : Nat) : EventStream := { stream with next := next }

/-- What a stream that has read everything gets: the end if the bus is closed, nothing
otherwise. -/
def atEnd (isOpen : Bool) : Option Reading := if isOpen then none else some .closed

/-- Reads without waiting: passes over the events that the stream does not want. -/
def tryRecv (stream : EventStream) (ring : EventRing) (isOpen : Bool) :
    Option Reading × EventStream :=
  let behind := ring.behind stream.next
  if ring.size < behind then
    (some (.lagged (behind - ring.size)), stream.moveTo (ring.sent - ring.size))
  else match (ring.unread stream.next).dropWhile fun event => !stream.accepts event with
    | event :: rest => (some (.event event), stream.moveTo (ring.sent - rest.length))
    | [] => (atEnd isOpen, stream.moveTo (stream.next + behind))

/-- Looks at one position of the ring, whatever the stream wants, and moves past it. -/
def look (stream : EventStream) (ring : EventRing) (isOpen : Bool) :
    Option Reading × EventStream :=
  let behind := ring.behind stream.next
  if ring.size < behind then
    (some (.lagged (behind - ring.size)), stream.moveTo (ring.sent - ring.size))
  else match ring.unread stream.next with
    | event :: _ => (some (.event event), stream.moveTo (stream.next + 1))
    | [] => (atEnd isOpen, stream)

/-- Reads event after event until the stream wants one, at most `looks` of them. -/
def recvWithin : Nat → EventStream → EventRing → Bool → Option Reading × EventStream
  | 0, stream, _, _ => (none, stream)
  | looks + 1, stream, ring, isOpen =>
    match stream.look ring isOpen with
    | (some (.event event), after) =>
      if stream.accepts event then (some (.event event), after)
      else recvWithin looks after ring isOpen
    | other => other

/-- Reads, with `none` for a read that has to wait. A ring gives one look for every kept event, and
one more for the end. -/
def recv (stream : EventStream) (ring : EventRing) (isOpen : Bool) :
    Option Reading × EventStream :=
  recvWithin (ring.kept.length + 1) stream ring isOpen

/-- The text for a developer. -/
def shown (stream : EventStream) : String :=
  let hasFilter := if stream.filter.isSome then "true" else "false"
  s!"EventStream \x7b has_filter: {hasFilter} \x7d"

end EventStream

/-! ### The bus -/

/-- A bus with its handles, which are alive or not, and its streams, which may be gone. -/
structure EventBus where
  ring : EventRing
  handles : List Bool
  streams : List (Option EventStream)

namespace EventBus

def new (ring : EventRing) : EventBus := ⟨ring, [true], []⟩

/-- A handle of the bus is alive. -/
def isOpen (bus : EventBus) : Bool := bus.handles.any id

def subscribers (bus : EventBus) : Nat := bus.streams.countP Option.isSome

/-- A new stream sees the events published from now on; the answer is its number. -/
def subscribe (bus : EventBus) (filter : Option (Event → Bool)) : EventBus × Nat :=
  ({ bus with streams := bus.streams ++ [some ⟨bus.ring.sent, filter⟩] }, bus.streams.length)

/-- Publishes an event and answers how many streams get it. With no stream the event is lost, and
there is no answer. -/
def emit (bus : EventBus) (event : Event) : EventBus × Option Nat :=
  if bus.subscribers = 0 then (bus, none)
  else ({ bus with ring := bus.ring.publish event }, some bus.subscribers)

/-- The stream with this number, unless it is gone. -/
def stream? (bus : EventBus) (number : Nat) : Option EventStream := bus.streams[number]?.join

def setStream (bus : EventBus) (number : Nat) (stream : Option EventStream) : EventBus :=
  { bus with streams := bus.streams.set number stream }

/-- Reads a stream without waiting; `none` if it is gone. -/
def tryRecv (bus : EventBus) (number : Nat) : EventBus × Option (Option Reading) :=
  match bus.stream? number with
  | none => (bus, none)
  | some stream =>
    let (reading, after) := stream.tryRecv bus.ring bus.isOpen
    (bus.setStream number (some after), some reading)

/-- Reads a stream, waiting if there is nothing yet; `none` if it is gone. -/
def recv (bus : EventBus) (number : Nat) : EventBus × Option (Option Reading) :=
  match bus.stream? number with
  | none => (bus, none)
  | some stream =>
    let (reading, after) := stream.recv bus.ring bus.isOpen
    (bus.setStream number (some after), some reading)

/-- Ends a stream; the answer is whether it was there. -/
def unsubscribe (bus : EventBus) (number : Nat) : EventBus × Bool :=
  (bus.setStream number none, (bus.stream? number).isSome)

/-- One more handle; the answer is its number. -/
def cloneHandle (bus : EventBus) : EventBus × Nat :=
  ({ bus with handles := bus.handles ++ [true] }, bus.handles.length)

/-- Gives up a handle; the answer is whether it was alive. -/
def dropHandle (bus : EventBus) (number : Nat) : EventBus × Bool :=
  ({ bus with handles := bus.handles.set number false }, bus.handles[number]?.getD false)

/-- The text for a developer. -/
def shown (bus : EventBus) : String := s!"EventBus \x7b subscriber_count: {bus.subscribers} \x7d"

/-- Reads a stream until it has nothing more to give, at most `reads` times. -/
def drain : Nat → EventBus → Nat → EventBus × List Reading
  | 0, bus, _ => (bus, [])
  | reads + 1, bus, number =>
    match bus.tryRecv number with
    | (after, some (some .closed)) => (after, [.closed])
    | (after, some (some reading)) =>
      let (last, more) := drain reads after number
      (last, reading :: more)
    | (after, _) => (after, [])

end EventBus

end ReplicaSync
