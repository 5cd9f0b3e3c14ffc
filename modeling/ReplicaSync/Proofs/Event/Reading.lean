import ReplicaSync.Event.Bus

/-!
# Reading a stream

A ring holds the end of the history of its bus. What a stream gets depends on the events of the
history that it has before it: if the ring does not hold them all, how many are missing, whatever
the stream wants; otherwise the first one that it wants. Both ways of reading are a loop of looks
at one event each, so they give the same and leave the stream in the same place. Main statements:
`recvWithin_eq_tryRecv` and `tryRecv_gives`.
-/

namespace ReplicaSync

/-! ### Histories -/

namespace EventRing

/-- The ring holds the end of a history. -/
structure Records (ring : EventRing) (history : List Event) : Prop where
  sent : ring.sent = history.length
  kept : ring.kept = history.drop (history.length - ring.size)

variable {ring : EventRing} {history : List Event} {next : Nat} {event : Event} {rest : List Event}

theorem Records.publish (h : ring.Records history) (event : Event) :
    (ring.publish event).Records (history ++ [event]) where
  sent := by simp [EventRing.publish, h.sent]
  kept := by
    have hpos := ring.size_pos
    have hlength : ring.kept.length = min history.length ring.size := by
      rw [← h.sent]
      exact ring.kept_length
    have hconcat : ring.kept ++ [event] =
        (history ++ [event]).drop (history.length - ring.size) := by
      rw [h.kept, List.drop_append_of_le_length (by omega)]
    show (ring.kept ++ [event]).drop (ring.kept.length + 1 - ring.size) =
      (history ++ [event]).drop ((history ++ [event]).length - ring.size)
    rw [hconcat, List.drop_drop, List.length_append, List.length_singleton]
    congr 1
    omega

theorem Records.behind_eq (h : ring.Records history) (next : Nat) :
    ring.behind next = (history.drop next).length := by
  rw [behind, h.sent, List.length_drop]

/-- A stream that is not too far behind has everything before it that the history has. -/
theorem Records.unread_eq (h : ring.Records history) (hnext : next ≤ history.length)
    (hnear : (history.drop next).length ≤ ring.size) : ring.unread next = history.drop next := by
  have hlength : ring.kept.length = min history.length ring.size := by
    rw [← h.sent]
    exact ring.kept_length
  rw [unread, h.behind_eq, hlength, h.kept, List.drop_drop]
  rw [List.length_drop] at hnear ⊢
  congr 1
  omega

theorem unread_succ (hnear : ring.behind next ≤ ring.size) (h : ring.unread next = event :: rest) :
    ring.unread (next + 1) = rest ∧ ring.behind (next + 1) + 1 = ring.behind next := by
  have hlength := ring.unread_length next hnear
  have hkept := ring.kept_length
  rw [h, List.length_cons] at hlength
  have hbehind : ring.behind (next + 1) + 1 = ring.behind next := by
    simp only [behind] at hlength ⊢
    omega
  refine ⟨?_, hbehind⟩
  have hplace : ring.kept.length - ring.behind (next + 1) =
      ring.kept.length - ring.behind next + 1 := by
    simp only [behind] at hlength hnear hbehind ⊢
    omega
  rw [unread, hplace, ← List.tail_drop]
  exact congrArg List.tail h

end EventRing

/-! ### Turns -/

namespace EventStream

variable {stream after : EventStream} {ring : EventRing} {isOpen : Bool} {event : Event}

theorem look_event (h : stream.look ring isOpen = (some (.event event), after)) :
    ring.behind stream.next ≤ ring.size ∧ (∃ rest, ring.unread stream.next = event :: rest) ∧
      after = stream.moveTo (stream.next + 1) := by
  unfold look at h
  simp only at h
  split at h
  · cases h
  · rename_i hnear
    split at h
    · rename_i rest hunread
      cases h
      exact ⟨Nat.le_of_not_lt hnear, ⟨rest, hunread⟩, rfl⟩
    · unfold atEnd at h
      split at h <;> cases h

/-- An event that is not wanted is passed over. -/
theorem tryRecv_skip (h : stream.look ring isOpen = (some (.event event), after))
    (hskip : stream.accepts event = false) :
    stream.tryRecv ring isOpen = after.tryRecv ring isOpen := by
  obtain ⟨hnear, ⟨rest, hunread⟩, rfl⟩ := look_event h
  obtain ⟨hrest, hbehind⟩ := EventRing.unread_succ hnear hunread
  have hnext : (stream.moveTo (stream.next + 1)).next = stream.next + 1 := rfl
  have haccepts : (stream.moveTo (stream.next + 1)).accepts = stream.accepts := rfl
  have hend : stream.next + ring.behind stream.next =
      stream.next + 1 + ring.behind (stream.next + 1) := by omega
  unfold tryRecv
  simp only [hnext, haccepts, hunread, hrest, hend]
  rw [if_neg (by omega), if_neg (by omega), List.dropWhile_cons_of_pos (by simp [hskip])]
  rfl

theorem tryRecv_stop (h : ∀ event after, stream.look ring isOpen = (some (.event event), after) →
    stream.accepts event = true) : stream.tryRecv ring isOpen = stream.look ring isOpen := by
  unfold tryRecv look at *
  simp only at h ⊢
  split
  · rfl
  · rename_i hfar
    rw [if_neg hfar] at h
    cases hunread : ring.unread stream.next with
    | nil =>
      have hbehind : ring.behind stream.next = 0 := by
        rw [← ring.unread_length stream.next (Nat.le_of_not_lt hfar), hunread]
        rfl
      simp [hbehind, moveTo]
    | cons event rest =>
      rw [hunread] at h
      have hwanted := h event _ rfl
      have hlength := ring.unread_length stream.next (Nat.le_of_not_lt hfar)
      have hplace : ring.sent - rest.length = stream.next + 1 := by
        rw [hunread, List.length_cons, EventRing.behind] at hlength
        omega
      rw [List.dropWhile_cons_of_neg (by simp [hwanted])]
      simp only [hplace]

/-- Turn by turn, and with more turns than there are events to look at, the loop that waits does
what the one does that does not wait. -/
theorem recvWithin_eq_tryRecv {looks : Nat} (h : (ring.unread stream.next).length < looks) :
    recvWithin looks stream ring isOpen = stream.tryRecv ring isOpen := by
  induction looks generalizing stream with
  | zero => cases h
  | succ looks ih =>
    rw [recvWithin]
    split
    · rename_i event after hlook
      split
      · rename_i hwanted
        rw [tryRecv_stop, hlook]
        intro other _ hother
        rw [hlook] at hother
        cases hother
        exact hwanted
      · rename_i hskip
        obtain ⟨hnear, ⟨rest, hunread⟩, rfl⟩ := look_event hlook
        have hrest := (EventRing.unread_succ hnear hunread).1
        rw [tryRecv_skip hlook (by simpa using hskip)]
        apply ih
        show (ring.unread (stream.next + 1)).length < looks
        rw [hunread, List.length_cons] at h
        rw [hrest]
        omega
    · rename_i hother
      rw [tryRecv_stop]
      intro event after hlook
      exact (hother event after hlook).elim

theorem unread_length_le (ring : EventRing) (next : Nat) :
    (ring.unread next).length ≤ ring.kept.length := by
  rw [EventRing.unread, List.length_drop]
  omega

theorem recv_eq_tryRecv : stream.recv ring isOpen = stream.tryRecv ring isOpen :=
  recvWithin_eq_tryRecv (Nat.lt_succ_of_le (unread_length_le ring stream.next))

/-- What a look finds among the events that the stream has before it. -/
theorem look_cases {history : List Event} (stream : EventStream) (isOpen : Bool)
    (h : ring.Records history) (hnext : stream.next ≤ history.length) :
    ring.size < (history.drop stream.next).length ∧ stream.look ring isOpen =
      (some (.lagged ((history.drop stream.next).length - ring.size)),
        stream.moveTo (stream.next + ((history.drop stream.next).length - ring.size))) ∨
    (∃ event rest, history.drop stream.next = event :: rest ∧
      stream.look ring isOpen = (some (.event event), stream.moveTo (stream.next + 1))) ∨
    history.drop stream.next = [] ∧ stream.look ring isOpen = (atEnd isOpen, stream) := by
  have hbehind := h.behind_eq stream.next
  have hlength : (history.drop stream.next).length = history.length - stream.next :=
    List.length_drop
  unfold look
  simp only [hbehind]
  split
  · rename_i hfar
    have hplace : ring.sent - ring.size =
        stream.next + ((history.drop stream.next).length - ring.size) := by
      rw [h.sent]
      omega
    rw [hplace]
    exact .inl ⟨hfar, rfl⟩
  · rename_i hnear
    rw [h.unread_eq hnext (Nat.le_of_not_lt hnear)]
    cases hahead : history.drop stream.next with
    | nil => exact .inr (.inr ⟨rfl, rfl⟩)
    | cons event rest => exact .inr (.inl ⟨event, rest, rfl, rfl⟩)

/-- The events that a read passes over. -/
def passedOver (stream : EventStream) (ring : EventRing) : List Event :=
  if ring.size < ring.behind stream.next then []
  else (ring.unread stream.next).takeWhile fun event => !stream.accepts event

/-- A read that passes over events begins with a look at the first one. -/
theorem look_of_passedOver {more : List Event} (isOpen : Bool)
    (h : stream.passedOver ring = event :: more) :
    stream.look ring isOpen = (some (.event event), stream.moveTo (stream.next + 1)) ∧
      stream.accepts event = false ∧ (stream.moveTo (stream.next + 1)).passedOver ring = more := by
  unfold passedOver at h
  split at h
  · cases h
  · rename_i hfar
    cases hunread : ring.unread stream.next with
    | nil =>
      rw [hunread] at h
      cases h
    | cons first rest =>
      rw [hunread, List.takeWhile_cons] at h
      split at h
      · rename_i hskip
        obtain ⟨rfl, hmore⟩ := List.cons.inj h
        obtain ⟨hrest, hbehind⟩ := EventRing.unread_succ (Nat.le_of_not_lt hfar) hunread
        refine ⟨?_, by simpa using hskip, ?_⟩
        · rw [look]
          simp only [if_neg hfar, hunread]
        · have hnext : (stream.moveTo (stream.next + 1)).next = stream.next + 1 := rfl
          rw [passedOver, hnext, hrest, if_neg (by omega)]
          exact hmore
      · cases h

theorem look_of_passedOver_nil (h : stream.passedOver ring = [])
    (hlook : stream.look ring isOpen = (some (.event event), after)) :
    stream.accepts event = true := by
  obtain ⟨hnear, ⟨rest, hunread⟩, rfl⟩ := look_event hlook
  rw [passedOver, if_neg (Nat.not_lt.mpr hnear), hunread, List.takeWhile_cons] at h
  split at h
  · cases h
  · rename_i hwanted
    simpa using hwanted

/-! ### What a read gives -/

/-- A stream that fell behind too far is told so and goes on with the oldest kept event. -/
theorem tryRecv_far (h : ring.size < ring.behind stream.next) :
    stream.tryRecv ring isOpen =
      (some (.lagged (ring.behind stream.next - ring.size)), stream.moveTo ring.oldest) := by
  have hlength := ring.kept_length
  have holdest : ring.sent - ring.size = ring.oldest := by
    rw [EventRing.behind] at h
    rw [EventRing.oldest]
    omega
  rw [tryRecv, if_pos h, holdest]

/-- What a stream gets that has these events before it, and the events that it has before it
then. -/
inductive Gives (wanted : Event → Bool) (size : Nat) (isOpen : Bool) (ahead : List Event) :
    Option Reading → List Event → Prop where
  | lagged (hfar : size < ahead.length) :
    Gives wanted size isOpen ahead (some (.lagged (ahead.length - size)))
      (ahead.drop (ahead.length - size))
  | event {skipped rest : List Event} {event : Event} (hnear : ahead.length ≤ size)
    (hsplit : ahead = skipped ++ event :: rest) (hskipped : ∀ e ∈ skipped, wanted e = false)
    (hevent : wanted event = true) : Gives wanted size isOpen ahead (some (.event event)) rest
  | closed (hnear : ahead.length ≤ size) (hskipped : ∀ e ∈ ahead, wanted e = false)
    (hclosed : isOpen = false) : Gives wanted size isOpen ahead (some .closed) []
  | nothing (hnear : ahead.length ≤ size) (hskipped : ∀ e ∈ ahead, wanted e = false)
    (hopen : isOpen = true) : Gives wanted size isOpen ahead none []

theorem tryRecv_gives {history : List Event} (stream : EventStream) (isOpen : Bool)
    (h : ring.Records history) (hnext : stream.next ≤ history.length) :
    Gives stream.accepts ring.size isOpen (history.drop stream.next)
      (stream.tryRecv ring isOpen).1 (history.drop (stream.tryRecv ring isOpen).2.next) := by
  have hbehind := h.behind_eq stream.next
  have hlength : (history.drop stream.next).length = history.length - stream.next :=
    List.length_drop
  unfold tryRecv
  simp only [hbehind]
  split
  · rename_i hfar
    have hleft : history.drop (ring.sent - ring.size) = (history.drop stream.next).drop
        ((history.drop stream.next).length - ring.size) := by
      rw [List.drop_drop, h.sent]
      congr 1
      omega
    show Gives _ _ _ _ _ (history.drop (ring.sent - ring.size))
    rw [hleft]
    exact .lagged hfar
  · rename_i hnear
    have hnear := Nat.le_of_not_lt hnear
    rw [h.unread_eq hnext hnear]
    have hsplit := List.takeWhile_append_dropWhile
      (p := fun event => !stream.accepts event) (l := history.drop stream.next)
    have hskipped : ∀ e ∈ (history.drop stream.next).takeWhile fun event => !stream.accepts event,
        stream.accepts e = false := by
      intro e he
      simpa using List.all_eq_true.mp List.all_takeWhile e he
    split
    · rename_i event rest hrest
      rw [hrest] at hsplit
      have hevent : stream.accepts event = true := by
        have hhead := List.head_dropWhile_not (fun event => !stream.accepts event)
          (l := history.drop stream.next) (by simp [hrest])
        simpa [hrest] using hhead
      have hleft : history.drop (ring.sent - rest.length) = rest := by
        have hpart : rest <:+ history.drop stream.next :=
          (List.suffix_cons event rest).trans ⟨_, hsplit⟩
        rw [h.sent]
        exact (List.suffix_iff_eq_drop.mp (hpart.trans (List.drop_suffix _ _))).symm
      show Gives _ _ _ _ _ (history.drop (ring.sent - rest.length))
      rw [hleft]
      exact .event hnear hsplit.symm hskipped hevent
    · rename_i hnone
      rw [hnone, List.append_nil] at hsplit
      rw [hsplit] at hskipped
      have hleft : history.drop (stream.next + (history.drop stream.next).length) = [] :=
        List.drop_eq_nil_of_le (by omega)
      show Gives _ _ _ _ _ (history.drop (stream.next + (history.drop stream.next).length))
      rw [hleft]
      unfold atEnd
      split
      · rename_i hopen
        exact .nothing hnear hskipped hopen
      · rename_i hclosed
        exact .closed hnear hskipped (by simpa using hclosed)

end EventStream

end ReplicaSync
