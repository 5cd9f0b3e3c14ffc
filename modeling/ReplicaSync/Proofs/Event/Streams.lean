import ReplicaSync.Proofs.Event.Moves

/-!
# Nothing is lost silently

Of the events that are emitted once a stream has begun, each one is returned to it, passed over
because it is not wanted, reported as missed, or still before it, whatever is done with the bus and
its other streams. A look takes from before the stream what it accounts for, every read is made of
looks, and so accounts are kept along a run. Main statement: `event_streams_lose_nothing`.
-/

namespace ReplicaSync

/-! ### Accounts -/

namespace BusNote

def emitted? : BusNote → Option Event
  | .emitted event => some event
  | _ => none

def returned? (number : Nat) : BusNote → Option Event
  | .answered other (some (.event event)) => if other = number then some event else none
  | _ => none

def skipped? (number : Nat) : BusNote → Option Event
  | .skipped other event => if other = number then some event else none
  | _ => none

def missed (number : Nat) : BusNote → Nat
  | .answered other (some (.lagged missed)) => if other = number then missed else 0
  | _ => 0

end BusNote

namespace EventBus

def emittedIn (notes : List BusNote) : List Event := notes.filterMap BusNote.emitted?

def returnedIn (number : Nat) (notes : List BusNote) : List Event :=
  notes.filterMap (BusNote.returned? number)

def skippedIn (number : Nat) (notes : List BusNote) : List Event :=
  notes.filterMap (BusNote.skipped? number)

/-- How many events the stream was told that it missed. -/
def missedIn (number : Nat) : List BusNote → Nat
  | [] => 0
  | note :: rest => note.missed number + missedIn number rest

/-- The notes account for the events that a stream moved past. -/
structure Settled (wanted : Event → Bool) (number : Nat) (notes : List BusNote)
    (passed : List Event) : Prop where
  returned : (returnedIn number notes).Sublist (passed.filter wanted)
  skipped : (skippedIn number notes).Sublist (passed.filter fun event => !wanted event)
  count : passed.length =
    (returnedIn number notes).length + (skippedIn number notes).length + missedIn number notes

section Settled

variable {wanted : Event → Bool} {number other : Nat} {notes more : List BusNote}
  {passed gap : List Event} {event : Event} {stream : EventStream}

theorem missedIn_append : missedIn number (notes ++ more) =
    missedIn number notes + missedIn number more := by
  induction notes with
  | nil => exact (Nat.zero_add _).symm
  | cons note rest ih =>
    rw [List.cons_append, missedIn, ih, missedIn]
    omega

theorem Settled.append (h : Settled wanted number notes passed)
    (hmore : Settled wanted number more gap) :
    Settled wanted number (notes ++ more) (passed ++ gap) where
  returned := by
    rw [returnedIn, List.filterMap_append, List.filter_append]
    exact h.returned.append hmore.returned
  skipped := by
    rw [skippedIn, List.filterMap_append, List.filter_append]
    exact h.skipped.append hmore.skipped
  count := by
    have hcount := h.count
    have hcount' := hmore.count
    simp only [returnedIn, skippedIn, missedIn_append, List.filterMap_append,
      List.length_append] at hcount hcount' ⊢
    omega

theorem settled_nil : Settled wanted number [] [] := ⟨List.Sublist.slnil, List.Sublist.slnil, rfl⟩

theorem settled_quiet {note : BusNote} (hreturned : note.returned? number = none)
    (hskipped : note.skipped? number = none) (hmissed : note.missed number = 0) :
    Settled wanted number [note] [] := by
  have hreturned : returnedIn number [note] = [] := List.filterMap_cons_none hreturned
  have hskipped : skippedIn number [note] = [] := List.filterMap_cons_none hskipped
  have hmissed : missedIn number [note] = 0 := by simp [missedIn, hmissed]
  refine ⟨?_, ?_, ?_⟩
  · rw [hreturned]
    exact List.nil_sublist _
  · rw [hskipped]
    exact List.nil_sublist _
  · rw [hreturned, hskipped, hmissed]
    rfl

theorem settled_returned (h : wanted event = true) :
    Settled wanted number [.answered number (some (.event event))] [event] := by
  constructor <;> simp [returnedIn, skippedIn, missedIn, BusNote.returned?, BusNote.skipped?,
    BusNote.missed, h]

theorem settled_skipped (h : wanted event = false) :
    Settled wanted number [.skipped number event] [event] := by
  constructor <;> simp [returnedIn, skippedIn, missedIn, BusNote.returned?, BusNote.skipped?,
    BusNote.missed, h]

theorem settled_lagged :
    Settled wanted number [.answered number (some (.lagged gap.length))] gap := by
  constructor <;> simp [returnedIn, skippedIn, missedIn, List.filterMap_cons, BusNote.returned?,
    BusNote.skipped?, BusNote.missed]

theorem settled_atEnd (isOpen : Bool) :
    Settled wanted number [.answered number (EventStream.atEnd isOpen)] [] := by
  cases isOpen <;> exact settled_quiet rfl rfl rfl

theorem settled_answered_other (h : other ≠ number) (reading : Option Reading) :
    Settled wanted number [.answered other reading] [] := by
  rcases reading with _ | event | missed | _
  · exact settled_quiet rfl rfl rfl
  · exact settled_quiet (if_neg h) rfl rfl
  · exact settled_quiet rfl rfl (if_neg h)
  · exact settled_quiet rfl rfl rfl

theorem settled_look_other (h : other ≠ number) (reading : Option Reading) :
    Settled wanted number [noteOfLook other stream reading] [] := by
  unfold noteOfLook
  split
  · split
    · exact settled_answered_other h _
    · exact settled_quiet rfl (if_neg h) rfl
  · exact settled_answered_other h _

theorem emittedIn_append : emittedIn (notes ++ more) = emittedIn notes ++ emittedIn more :=
  List.filterMap_append

theorem emittedIn_look (reading : Option Reading) :
    emittedIn [noteOfLook other stream reading] = [] := by
  unfold noteOfLook
  split
  · split <;> rfl
  · rfl

end Settled

/-! ### Steps -/

def wanted (filter : Option (Event → Bool)) (event : Event) : Bool :=
  EventStream.accepts ⟨0, filter⟩ event

/-- A stream began after some events, moved past others and has the rest before it. -/
structure Tracks (bus : EventBus) (number : Nat) (filter : Option (Event → Bool))
    (base passed ahead : List Event) : Prop where
  here : bus.stream? number = some ⟨base.length + passed.length, filter⟩
  records : bus.ring.Records (base ++ passed ++ ahead)

/-- The notes account for every event that the move takes from before the stream. -/
def KeepsAccount (number : Nat) (filter : Option (Event → Bool)) (base : List Event)
    (bus after : EventBus) (notes : List BusNote) : Prop :=
  ∀ passed ahead, bus.Tracks number filter base passed ahead → ∃ gap left,
    after.Tracks number filter base (passed ++ gap) left ∧
      ahead ++ emittedIn notes = gap ++ left ∧ Settled (wanted filter) number notes gap

section Steps

variable {bus : EventBus} {number other : Nat} {filter : Option (Event → Bool)}
  {base passed ahead : List Event} {stream : EventStream} {event : Event} {moves : List BusMove}
  {move : BusMove}

/-- A bus with the same ring and the same stream keeps account without notes. -/
theorem keepsAccount_still {after : EventBus} (hring : after.ring = bus.ring)
    (hstream : bus.stream? number ≠ none → after.stream? number = bus.stream? number) :
    KeepsAccount number filter base bus after [] := by
  intro passed ahead h
  refine ⟨[], ahead, ⟨?_, ?_⟩, List.append_nil _, settled_nil⟩
  · rw [List.append_nil, hstream (by simp [h.here]), h.here]
  · rw [List.append_nil, hring]
    exact h.records

theorem Tracks.moved {left : List Event} (gap : List Event)
    (h : bus.Tracks number filter base passed (gap ++ left)) :
    (bus.setStream number (some ⟨base.length + passed.length + gap.length, filter⟩)).Tracks
      number filter base (passed ++ gap) left where
  here := by rw [stream?_setStream h.here, List.length_append, Nat.add_assoc]
  records := by
    have hhistory : base ++ (passed ++ gap) ++ left = base ++ passed ++ (gap ++ left) := by
      simp only [List.append_assoc]
    rw [hhistory]
    exact h.records

/-- A look takes the lost events, the first one, or nothing from before the stream. -/
theorem keepsAccount_look_self : KeepsAccount number filter base bus (bus.step (.look number)).1
    (bus.step (.look number)).2 := by
  intro passed ahead h
  have hahead : (base ++ passed ++ ahead).drop (base.length + passed.length) = ahead :=
    List.drop_left' List.length_append
  have hcases := EventStream.look_cases ⟨base.length + passed.length, filter⟩ bus.isOpen h.records
    (by simp)
  rw [step_look h.here]
  simp only [hahead] at hcases
  rcases hcases with ⟨hfar, hlook⟩ | ⟨event, rest, rfl, hlook⟩ | ⟨rfl, hlook⟩
  · obtain ⟨gap, left, rfl, hgap⟩ : ∃ gap left, ahead = gap ++ left ∧
        ahead.length - bus.ring.size = gap.length :=
      ⟨ahead.take (ahead.length - bus.ring.size), ahead.drop (ahead.length - bus.ring.size),
        (List.take_append_drop _ _).symm, by rw [List.length_take]; omega⟩
    rw [hlook, hgap]
    exact ⟨gap, left, h.moved gap, List.append_nil _, settled_lagged⟩
  · rw [hlook]
    refine ⟨[event], rest, h.moved [event], ?_, ?_⟩
    · rw [emittedIn_look, List.append_nil, List.singleton_append]
    · show Settled _ _ [if wanted filter event then _ else _] _
      split
      · rename_i hwanted
        exact settled_returned hwanted
      · rename_i hskip
        exact settled_skipped (Bool.eq_false_iff.mpr hskip)
  · have hnote : noteOfLook number ⟨base.length + passed.length, filter⟩
        (EventStream.atEnd bus.isOpen) = .answered number (EventStream.atEnd bus.isOpen) := by
      cases bus.isOpen <;> rfl
    rw [hlook, hnote]
    exact ⟨[], [], h.moved [], rfl, settled_atEnd _⟩

theorem keepsAccount_look_other (hother : other ≠ number) : KeepsAccount number filter base bus
    (bus.step (.look other)).1 (bus.step (.look other)).2 := by
  cases hstream : bus.stream? other with
  | none =>
    have hstep : bus.step (.look other) = (bus, []) := by simp only [step, look, hstream]
    rw [hstep]
    exact keepsAccount_still rfl fun _ => rfl
  | some stream =>
    intro passed ahead h
    rw [step_look hstream]
    refine ⟨[], ahead, ⟨?_, ?_⟩, ?_, settled_look_other hother _⟩
    · rw [stream?_setStream_ne hother, List.append_nil]
      exact h.here
    · rw [List.append_nil]
      exact h.records
    · rw [emittedIn_look, List.append_nil, List.nil_append]

theorem keepsAccount_look (other : Nat) : KeepsAccount number filter base bus
    (bus.step (.look other)).1 (bus.step (.look other)).2 := by
  by_cases hother : other = number
  · subst hother
    exact keepsAccount_look_self
  · exact keepsAccount_look_other hother

/-- Accounts are kept along a run if each move keeps them. -/
theorem keepsAccount_run (h : ∀ move ∈ moves, ∀ bus : EventBus,
    KeepsAccount number filter base bus (bus.step move).1 (bus.step move).2) :
    KeepsAccount number filter base bus (bus.run moves).1 (bus.run moves).2 := by
  induction moves generalizing bus with
  | nil => exact keepsAccount_still rfl fun _ => rfl
  | cons move rest ih =>
    intro passed ahead htracks
    obtain ⟨gap, left, htracks, hsplit, hsettled⟩ :=
      h move List.mem_cons_self bus passed ahead htracks
    obtain ⟨more, last, htracks, hsplit', hsettled'⟩ :=
      ih (fun move hmove => h move (List.mem_cons_of_mem _ hmove)) _ _ htracks
    rw [run_cons]
    refine ⟨gap ++ more, last, ?_, ?_, hsettled.append hsettled'⟩
    · rw [← List.append_assoc]
      exact htracks
    · rw [emittedIn_append, ← List.append_assoc, hsplit, List.append_assoc, hsplit',
        List.append_assoc]

-- A whole read moves past several events at once, so its account is that of its looks.
theorem keepsAccount_tryRecv (other : Nat) : KeepsAccount number filter base bus
    (bus.step (.tryRecv other)).1 (bus.step (.tryRecv other)).2 := by
  cases hstream : bus.stream? other with
  | none =>
    have hstep : bus.step (.tryRecv other) = (bus, []) := by
      simp only [step, tryRecv, notesOfRead, hstream]
    rw [hstep]
    exact keepsAccount_still rfl fun _ => rfl
  | some stream =>
    rw [step_tryRecv_eq_looks hstream]
    apply keepsAccount_run
    intro move hmove bus
    rw [List.eq_of_mem_replicate hmove]
    exact keepsAccount_look other

/-- With a stream there is somebody who listens. -/
theorem emit_eq (h : bus.stream? number = some stream) (event : Event) :
    (bus.emit event).1 = { bus with ring := bus.ring.publish event } := by
  have hmem : some stream ∈ bus.streams := List.mem_of_getElem? (Option.join_eq_some_iff.mp h)
  have hsubscribers : bus.subscribers ≠ 0 := by
    apply Nat.ne_of_gt
    exact List.countP_pos_iff.mpr ⟨_, hmem, rfl⟩
  rw [emit, if_neg hsubscribers]

theorem keepsAccount_emit (handle : Nat) (event : Event) : KeepsAccount number filter base bus
    (bus.step (.emit handle event)).1 (bus.step (.emit handle event)).2 := by
  unfold step
  simp only
  split
  · intro passed ahead h
    rw [emit_eq h.here]
    refine ⟨[], ahead ++ [event], ⟨?_, ?_⟩, rfl, settled_quiet rfl rfl rfl⟩
    · rw [List.append_nil]
      exact h.here
    · rw [List.append_nil, ← List.append_assoc]
      exact h.records.publish event
  · exact keepsAccount_still rfl fun _ => rfl

theorem stream?_subscribe (h : bus.stream? number ≠ none) :
    (bus.subscribe filter).1.stream? number = bus.stream? number := by
  have hlt : number < bus.streams.length := by
    apply Nat.lt_of_not_le
    intro hle
    exact h (by simp [stream?, List.getElem?_eq_none hle])
  simp only [stream?, subscribe, List.getElem?_append_left hlt]

/-- Every move keeps account of a stream that it does not end. -/
theorem keepsAccount_step (hmove : move ≠ .unsubscribe number) : KeepsAccount number filter base bus
    (bus.step move).1 (bus.step move).2 := by
  cases move with
  | subscribe handle other =>
    unfold step
    simp only
    split
    · exact keepsAccount_still rfl stream?_subscribe
    · exact keepsAccount_still rfl fun _ => rfl
  | emit handle event => exact keepsAccount_emit handle event
  | cloneHandle handle =>
    unfold step
    simp only
    split <;> exact keepsAccount_still rfl fun _ => rfl
  | dropHandle handle => exact keepsAccount_still rfl fun _ => rfl
  | unsubscribe other =>
    refine keepsAccount_still rfl fun _ => stream?_setStream_ne ?_ none
    rintro rfl
    exact hmove rfl
  | look other => exact keepsAccount_look other
  | tryRecv other => exact keepsAccount_tryRecv other
  | recv other =>
    have hstep : bus.step (.recv other) = bus.step (.tryRecv other) := by
      simp only [step, recv_eq_tryRecv]
    rw [hstep]
    exact keepsAccount_tryRecv other

theorem step_ring (bus : EventBus) (move : BusMove) : (bus.step move).1.ring = bus.ring ∨
    ∃ event, (bus.step move).1.ring = bus.ring.publish event := by
  have hread : ∀ number, (bus.tryRecv number).1.ring = bus.ring := by
    intro number
    unfold tryRecv
    split <;> rfl
  cases move with
  | subscribe handle filter =>
    unfold step
    simp only
    split <;> exact .inl rfl
  | emit handle event =>
    unfold step emit
    simp only
    split
    · split
      · exact .inl rfl
      · exact .inr ⟨event, rfl⟩
    · exact .inl rfl
  | cloneHandle handle =>
    unfold step
    simp only
    split <;> exact .inl rfl
  | dropHandle handle => exact .inl rfl
  | unsubscribe number => exact .inl rfl
  | look number =>
    unfold step look
    simp only
    split <;> exact .inl rfl
  | tryRecv number => exact .inl (hread number)
  | recv number =>
    rw [step, recv_eq_tryRecv]
    exact .inl (hread number)

/-- The ring of a bus always holds the end of a history, and its size does not change. -/
theorem run_ring {history : List Event} (bus : EventBus) (h : bus.ring.Records history)
    (moves : List BusMove) :
    (bus.run moves).1.ring.size = bus.ring.size ∧
      ∃ longer, (bus.run moves).1.ring.Records longer := by
  induction moves generalizing bus history with
  | nil => exact ⟨rfl, history, h⟩
  | cons move rest ih =>
    rw [run_cons]
    rcases step_ring bus move with hring | ⟨event, hring⟩
    · rw [← hring] at h
      obtain ⟨hsize, hlonger⟩ := ih _ h
      rw [hsize, hring]
      exact ⟨rfl, hlonger⟩
    · have hpublished := h.publish event
      rw [← hring] at hpublished
      obtain ⟨hsize, hlonger⟩ := ih _ hpublished
      rw [hsize, hring]
      exact ⟨rfl, hlonger⟩

end Steps

/-! ### Streams -/

theorem isOpen_iff {bus : EventBus} :
    bus.isOpen = true ↔ ∃ handle, bus.isAlive handle = true := by
  rw [isOpen, List.any_eq_true]
  constructor
  · rintro ⟨alive, hmem, halive⟩
    obtain ⟨handle, hhandle⟩ := List.getElem?_of_mem hmem
    exact ⟨handle, by rw [isAlive, hhandle]; exact halive⟩
  · rintro ⟨handle, halive⟩
    cases hhandle : bus.handles[handle]? with
    | none => simp [isAlive, hhandle] at halive
    | some alive =>
      rw [isAlive, hhandle] at halive
      exact ⟨alive, List.mem_of_getElem? hhandle, halive⟩

/-- The events that were emitted since a stream began and that are still before it. -/
def ahead (bus : EventBus) (stream : EventStream) (notes : List BusNote) : List Event :=
  (emittedIn notes).drop ((emittedIn notes).length - bus.ring.behind stream.next)

/-- What became of the events that were emitted since a stream began, and what it gets next. -/
structure Accounts (bus : EventBus) (number : Nat) (stream : EventStream)
    (notes : List BusNote) : Prop where
  returned : (returnedIn number notes).Sublist ((emittedIn notes).filter stream.accepts)
  skipped : (skippedIn number notes).Sublist
    ((emittedIn notes).filter fun event => !stream.accepts event)
  count : (emittedIn notes).length =
    (returnedIn number notes).length + (skippedIn number notes).length + missedIn number notes +
      bus.ring.behind stream.next
  /-- As long as no gap is reported, every event that is wanted is returned. -/
  complete : missedIn number notes = 0 → (emittedIn notes).filter stream.accepts =
    returnedIn number notes ++ (bus.ahead stream notes).filter stream.accepts
  next : EventStream.Gives stream.accepts bus.ring.size bus.isOpen (bus.ahead stream notes)
    (stream.tryRecv bus.ring bus.isOpen).1
    (bus.ahead (stream.tryRecv bus.ring bus.isOpen).2 notes)
  resumes : bus.ring.size < bus.ring.behind stream.next →
    (stream.tryRecv bus.ring bus.isOpen).2.next = bus.ring.oldest

section Streams

variable {bus : EventBus} {number : Nat} {filter : Option (Event → Bool)}
  {base passed left : List Event} {notes : List BusNote} {stream : EventStream}

theorem ahead_eq (stream : EventStream) (h : bus.ring.Records (base ++ emittedIn notes))
    (hnext : base.length ≤ stream.next) :
    bus.ahead stream notes = (base ++ emittedIn notes).drop stream.next := by
  rw [ahead, h.behind_eq, List.length_drop, List.length_append, List.drop_append,
    List.drop_eq_nil_of_le hnext, List.nil_append]
  by_cases hend : stream.next ≤ base.length + (emittedIn notes).length
  · congr 1
    omega
  · rw [List.drop_eq_nil_of_le (by omega), List.drop_eq_nil_of_le (by omega)]

theorem Settled.complete {wanted : Event → Bool} (h : Settled wanted number notes passed)
    (hnone : missedIn number notes = 0) : returnedIn number notes = passed.filter wanted := by
  have hcount := h.count
  have hparts : passed.length =
      (passed.filter wanted).length + (passed.filter fun event => !wanted event).length := by
    rw [List.length_eq_countP_add_countP wanted, List.countP_eq_length_filter,
      List.countP_eq_length_filter]
    simp
  have hskipped := h.skipped.length_le
  apply h.returned.eq_of_length_le
  omega

theorem Tracks.accounts (h : bus.Tracks number filter base passed left)
    (hstream : bus.stream? number = some stream) (hsplit : emittedIn notes = passed ++ left)
    (hsettled : Settled stream.accepts number notes passed) :
    bus.Accounts number stream notes := by
  have hnext : stream.next = base.length + passed.length := by
    rw [h.here] at hstream
    cases hstream
    rfl
  have hrecords : bus.ring.Records (base ++ emittedIn notes) := by
    rw [hsplit, ← List.append_assoc]
    exact h.records
  have hdrop : (base ++ emittedIn notes).drop stream.next = left := by
    rw [hsplit, hnext, ← List.append_assoc]
    exact List.drop_left' List.length_append
  have hahead := ahead_eq stream hrecords (by omega)
  -- the next read keeps account too, so it leaves the stream behind its beginning
  have hahead' : bus.ahead (stream.tryRecv bus.ring bus.isOpen).2 notes =
      (base ++ emittedIn notes).drop (stream.tryRecv bus.ring bus.isOpen).2.next := by
    obtain ⟨gap, rest, hafter, _⟩ := keepsAccount_tryRecv number passed left h
    have hhere := hafter.here
    rw [step_tryRecv hstream, stream?_setStream hstream, Option.some.injEq] at hhere
    apply ahead_eq _ hrecords
    rw [hhere]
    exact Nat.le_add_right _ _
  refine ⟨?_, ?_, ?_, ?_, ?_, ?_⟩
  · rw [hsplit, List.filter_append]
    exact hsettled.returned.trans (List.sublist_append_left _ _)
  · rw [hsplit, List.filter_append]
    exact hsettled.skipped.trans (List.sublist_append_left _ _)
  · rw [hrecords.behind_eq, hdrop, hsplit, List.length_append, hsettled.count]
  · intro hnone
    rw [hahead, hdrop, hsettled.complete hnone, hsplit, List.filter_append]
  · rw [hahead, hahead']
    apply EventStream.tryRecv_gives stream bus.isOpen hrecords
    rw [hnext, hsplit, List.length_append, List.length_append]
    omega
  · intro hfar
    rw [EventStream.tryRecv_far hfar]
    rfl

theorem new_records {capacity : Nat} {ring : EventRing}
    (h : EventRing.ofCapacity? capacity = some ring) :
    ring.size = capacity.nextPowerOfTwo ∧ ring.Records [] := by
  unfold EventRing.ofCapacity? at h
  split at h
  · cases h
  · cases h
    exact ⟨rfl, rfl, List.drop_nil.symm⟩

/-- A stream that begins has nothing before it. -/
theorem tracks_subscribe {history : List Event} (h : bus.ring.Records history) :
    (bus.subscribe filter).1.Tracks bus.streams.length filter history [] [] where
  here := by
    simp only [stream?, subscribe, List.getElem?_concat_length, Option.join_some, h.sent]
    rfl
  records := by
    rw [List.append_nil, List.append_nil]
    exact h

end Streams

end EventBus

open EventBus in
/-- Let a stream begin on a bus with which anything was done, and let anything be done with it
afterwards, but the stream not be ended. Then what the stream returned are events that were emitted
since, in their order, each at most once and all wanted; and each event that was emitted is
returned, passed over as not wanted, reported as missed or still before the stream. The next read
reports a gap if and only if more events are before the stream than the ring holds, and goes on with
the oldest one kept; it reports the end only if nothing that is wanted is left and no handle is.
Reading at once and waiting give the same. -/
theorem event_streams_lose_nothing {capacity : Nat} {ring : EventRing} {start bus : EventBus}
    {before after : List BusMove} {handle : Nat} {filter : Option (Event → Bool)}
    {notes : List BusNote} (hring : EventRing.ofCapacity? capacity = some ring)
    (hstart : ((EventBus.new ring).run before).1 = start)
    (hhandle : start.isAlive handle = true)
    (hrun : start.run (.subscribe handle filter :: after) = (bus, notes))
    (hstays : .unsubscribe start.streams.length ∉ after) :
    bus.ring.size = capacity.nextPowerOfTwo ∧
      (bus.isOpen = true ↔ ∃ handle, bus.isAlive handle = true) ∧
      ∃ stream, bus.stream? start.streams.length = some stream ∧ stream.filter = filter ∧
        bus.Accounts start.streams.length stream notes ∧
        bus.recv start.streams.length = bus.tryRecv start.streams.length ∧
        ∀ looks, bus.ring.kept.length < looks →
          stream.recvWithin looks bus.ring bus.isOpen = stream.tryRecv bus.ring bus.isOpen := by
  obtain ⟨hsize, hempty⟩ := new_records hring
  obtain ⟨hstartSize, history, hhistory⟩ := run_ring (.new ring) hempty before
  rw [hstart] at hstartSize hhistory
  have hsubscribe : start.step (.subscribe handle filter) = ((start.subscribe filter).1, []) :=
    if_pos hhandle
  have hbus : (start.subscribe filter).1.run after = (bus, notes) := by
    rw [run_cons, hsubscribe] at hrun
    exact hrun
  have hkeeps : KeepsAccount start.streams.length filter history (start.subscribe filter).1
      ((start.subscribe filter).1.run after).1 ((start.subscribe filter).1.run after).2 := by
    apply keepsAccount_run
    intro move hmove bus
    apply keepsAccount_step
    rintro rfl
    exact hstays hmove
  obtain ⟨passed, left, htracks, hsplit, hsettled⟩ := hkeeps [] [] (tracks_subscribe hhistory)
  have hbusSize := (run_ring (start.subscribe filter).1 hhistory after).1
  rw [hbus] at htracks hsplit hsettled hbusSize
  refine ⟨hbusSize.trans (hstartSize.trans hsize), isOpen_iff, _, htracks.here, rfl,
    htracks.accounts htracks.here hsplit hsettled, recv_eq_tryRecv _ _, fun looks hlooks => ?_⟩
  apply EventStream.recvWithin_eq_tryRecv
  exact Nat.lt_of_le_of_lt (EventStream.unread_length_le _ _) hlooks

open EventBus in
/-- Six events on a ring for three, which holds four: two are missed, one is passed over, one is
returned, and as no handle is left the next read passes over the last two and reports the end. -/
theorem event_streams_lose_nothing_overrun :
    let marked : Event := .watch (.subscribed "ab")
    let plain : Event := .sync (.dropped "timer")
    let after : List BusMove := [.emit 0 plain, .emit 1 plain, .emit 0 plain, .emit 0 marked,
      .emit 1 plain, .emit 0 plain, .tryRecv 1, .dropHandle 0, .look 1, .recv 1, .dropHandle 1]
    ∃ ring, EventRing.ofCapacity? 3 = some ring ∧
      let start := ((EventBus.new ring).run [.cloneHandle 0, .subscribe 1 none]).1
      let moved := start.run (.subscribe 1 (some fun event => event = marked) :: after)
      moved.1.ring.size = 4 ∧ missedIn 1 moved.2 = 2 ∧ skippedIn 1 moved.2 = [plain] ∧
        returnedIn 1 moved.2 = [marked] ∧ moved.1.isOpen = false ∧
        (moved.1.tryRecv 1).2 = some (some .closed) ∧ moved.1.recv 1 = moved.1.tryRecv 1 ∧
        ∃ stream, moved.1.stream? 1 = some stream ∧ moved.1.Accounts 1 stream moved.2 := by
  intro marked plain after
  let ring : EventRing := ⟨Nat.nextPowerOfTwo 3, 0, [], by decide +kernel, by decide +kernel⟩
  have hring : EventRing.ofCapacity? 3 = some ring := if_neg (by decide +kernel)
  let start := ((EventBus.new ring).run [.cloneHandle 0, .subscribe 1 none]).1
  have hhandle : start.isAlive 1 = true := by decide +kernel
  have hnumber : start.streams.length = 1 := by decide +kernel
  have hstays : BusMove.unsubscribe start.streams.length ∉ after := by
    simp [after]
  let moved := start.run (.subscribe 1 (some fun event => event = marked) :: after)
  have hrun : start.run (.subscribe 1 (some fun event => event = marked) :: after) =
      (moved.1, moved.2) := (Prod.eta _).symm
  obtain ⟨_, _, stream, hstream, _, haccounts, hrecv, _⟩ :=
    event_streams_lose_nothing hring rfl hhandle hrun hstays
  rw [hnumber] at hstream haccounts hrecv
  refine ⟨ring, hring, ?_, ?_, ?_, ?_, ?_, ?_, hrecv, stream, hstream, haccounts⟩
  · decide +kernel
  · decide +kernel
  · decide +kernel
  · decide +kernel
  · decide +kernel
  · decide +kernel

end ReplicaSync
