import ReplicaSync.Proofs.Fanout.Relay

/-!
# Callbacks by the bytes

What a connection starts is told by the bytes that the server sends on it. However these are cut
into pieces, and whatever the client does in between, the lines are served in their order, up to the
first that is no text; that one ends the connection, and after a pause the client tries again. Main
statement: `inbound_dispatch`.
-/

namespace ReplicaSync.Fanout

/-! ### Registered callbacks -/

/-- The callback that the move registers on the channel. -/
def ClientMove.registration? (channel : String) : ClientMove → Option Nat
  | .subscribe name callback =>
    if name = channel ∧ isChannel name = true then some callback else none
  | _ => none

/-- The callbacks that the moves register on a channel, in their order. -/
def registrations (moves : List ClientMove) (channel : String) : List Nat :=
  moves.filterMap (ClientMove.registration? channel)

namespace Client

theorem lookup_register_self (channel : String) (callback : Nat)
    (subscriptions : List (String × List Nat)) :
    (register channel callback subscriptions).lookup channel =
      some ((subscriptions.lookup channel).getD [] ++ [callback]) := by
  induction subscriptions with
  | nil => simp [register]
  | cons entry rest ih =>
    obtain ⟨name, callbacks⟩ := entry
    unfold register
    by_cases hname : name = channel
    · subst hname
      simp
    · have hother : (channel == name) = false := beq_eq_false_iff_ne.mpr (Ne.symm hname)
      rw [if_neg hname, List.lookup_cons, List.lookup_cons, hother, ih]

theorem registered_step (client : Client) (move : ClientMove) (channel : String) :
    (client.step move).1.callbacks channel =
      client.callbacks channel ++ (move.registration? channel).toList := by
  by_cases hother : move.registersOn channel = false
  · have hnone : move.registration? channel = none := by
      cases move with
      | subscribe name callback =>
        have hname : name ≠ channel := of_decide_eq_false hother
        exact if_neg fun h => hname h.1
      | _ => rfl
    rw [callbacks_step hother, hnone, Option.toList_none, List.append_nil]
  · cases move with
    | subscribe name callback =>
      have hname : name = channel := by simpa [ClientMove.registersOn] using hother
      subst hname
      have hlookup := lookup_register_self name callback client.subscriptions
      simp only [Client.step, Client.subscribe, ClientMove.registration?, true_and]
      split
      · rename_i hcheck
        have hchannel : ¬ isChannel name = true := by
          rw [← checkChannel_eq_ok_iff, hcheck]
          simp
        rw [if_neg hchannel, Option.toList_none, List.append_nil]
      · rename_i hcheck
        rw [if_pos ((checkChannel_eq_ok_iff name).mp hcheck)]
        split
        · exact congrArg (·.getD []) hlookup
        · exact congrArg (·.getD []) hlookup
    | _ => exact (hother rfl).elim

theorem registered_run (client : Client) (moves : List ClientMove) (channel : String) :
    (client.run moves).1.callbacks channel =
      client.callbacks channel ++ registrations moves channel := by
  induction moves generalizing client with
  | nil => exact (List.append_nil _).symm
  | cons move rest ih =>
    have hrest := ih (client.step move).1
    rw [registered_step, List.append_assoc] at hrest
    rw [run_cons, hrest, registrations, registrations, List.filterMap_cons]
    cases move.registration? channel with
    | none => rfl
    | some callback => rfl

end Client

/-! ### Moves on one connection -/

/-- The move registers no callback, no write fails in it, and it begins no other connection. -/
def ClientMove.isPeaceful : ClientMove → Bool
  | .subscribe channel _ => !isChannel channel
  | .replay fault | .serveCommand fault => fault.isNone
  | .connected | .shutDown => false
  | _ => true

/-- The client makes the move by itself. -/
def ClientMove.isOwn : ClientMove → Bool
  | .emptyQueue | .list _ | .replay none | .serveLine => true
  | _ => false

namespace Client

def isUp (client : Client) : Bool :=
  match client.link with
  | .up _ => true
  | _ => false

/-- Nothing that has arrived is left to be read. -/
def isCaughtUp (client : Client) : Bool :=
  match client.link with
  | .up ⟨.serving, _, inbound⟩ => inbound.next.1 = .wait
  | .up _ => false
  | _ => true

/-- The connection is over, and the next attempt is on its way. -/
structure Recovers (client : Client) : Prop where
  flag : client.isConnected = false
  link : client.link = .connecting ∨
    ∃ wakeAt, client.link = .sleeping wakeAt ∧ wakeAt ≤ client.now + client.delay.sleepTicks

variable {client : Client} {greeting : Greeting} {sent : List String} {inbound : Inbound}

theorem recovers_rest (client : Client) : client.rest.Recovers :=
  ⟨rfl, .inr ⟨_, rfl, Nat.le_refl _⟩⟩

theorem Recovers.isUp (h : client.Recovers) : client.isUp = false := by
  unfold Client.isUp
  rcases h.link with hlink | ⟨_, hlink, _⟩
  · rw [hlink]
  · rw [hlink]

theorem Recovers.isCaughtUp (h : client.Recovers) : client.isCaughtUp = true := by
  unfold Client.isCaughtUp
  rcases h.link with hlink | ⟨_, hlink, _⟩
  · rw [hlink]
  · rw [hlink]

/-- A change of the rest of the client does not matter. -/
theorem Recovers.same {other : Client} (h : client.Recovers)
    (hflag : other.isConnected = client.isConnected) (hlink : other.link = client.link)
    (hnow : other.now = client.now) (hdelay : other.delay = client.delay) : other.Recovers := by
  constructor
  · rw [hflag, h.flag]
  · rw [hlink, hnow, hdelay]
    exact h.link

/-- Without a connection the client waits for its next attempt, or makes it. -/
theorem Recovers.step (h : client.Recovers) {move : ClientMove}
    (hpeaceful : move.isPeaceful = true) :
    (client.step move).1.Recovers ∧ starts (client.step move).2 = [] := by
  by_cases hmove : move = .serveLine
  · subst hmove
    rcases h.link with hlink | ⟨wakeAt, hlink, _⟩
    · simp only [Client.step, Client.serveLine, hlink]
      exact ⟨h, rfl⟩
    · simp only [Client.step, Client.serveLine, hlink]
      exact ⟨h, rfl⟩
  refine ⟨?_, starts_step client hmove⟩
  cases move with
  | subscribe channel callback =>
    simp only [Client.step, Client.subscribe]
    split
    · exact h
    · split <;> exact h.same rfl rfl rfl rfl
  | enqueue channel =>
    simp only [Client.step, Client.enqueue]
    split
    · split <;> exact h.same rfl rfl rfl rfl
    · exact h
  | announce channel message =>
    simp only [Client.step, Client.announce]
    split <;> exact h.same rfl rfl rfl rfl
  | connected | shutDown => cases hpeaceful
  | serveLine => exact (hmove rfl).elim
  | unreachable reason =>
    simp only [Client.step, Client.unreachable]
    split
    · exact recovers_rest client
    · exact h
  | emptyQueue | list | replay | serveCommand | receive | hangUp =>
    -- these moves are for a connection that is up
    rcases h.link with hlink | ⟨wakeAt, hlink, _⟩
    · simp only [Client.step, Client.emptyQueue, Client.list, Client.replay, Client.serveCommand,
        Client.onInbound, hlink]
      exact h
    · simp only [Client.step, Client.emptyQueue, Client.list, Client.replay, Client.serveCommand,
        Client.onInbound, hlink]
      exact h
  | wake =>
    simp only [Client.step, Client.wake]
    split
    · split
      · exact ⟨h.flag, .inl rfl⟩
      · exact h
    · exact h
  | elapse ms =>
    rcases h.link with hlink | ⟨wakeAt, hlink, hwake⟩
    · simp only [Client.step, Client.elapse, hlink]
      exact ⟨h.flag, .inl rfl⟩
    · simp only [Client.step, Client.elapse, hlink]
      refine ⟨h.flag, .inr ⟨wakeAt, rfl, ?_⟩⟩
      show wakeAt ≤ min (client.now + ms) (max wakeAt client.now) + client.delay.sleepTicks
      omega

theorem Recovers.run (h : client.Recovers) {moves : List ClientMove}
    (hpeaceful : ∀ move ∈ moves, move.isPeaceful = true) :
    (client.run moves).1.Recovers ∧ starts (client.run moves).2 = [] := by
  induction moves generalizing client with
  | nil => exact ⟨h, rfl⟩
  | cons move rest ih =>
    rw [List.forall_mem_cons] at hpeaceful
    obtain ⟨hstep, hquiet⟩ := h.step hpeaceful.1
    obtain ⟨hrest, hnone⟩ := ih hstep hpeaceful.2
    rw [run_cons, starts_append, hquiet, hnone]
    exact ⟨hrest, rfl⟩

/-- After the pause the client tries again, and can be connected. -/
theorem Recovers.reconnects (h : client.Recovers) :
    (client.run [.elapse client.delay.sleepTicks, .wake, .connected]).1.isUp = true := by
  rcases h.link with hlink | ⟨wakeAt, hlink, hwake⟩
  · simp only [Client.run, Client.step, Client.elapse, Client.wake, Client.connected, hlink,
      Client.isUp]
  · have hnow : wakeAt ≤ min (client.now + client.delay.sleepTicks) (max wakeAt client.now) := by
      omega
    simp only [Client.run, Client.step, Client.elapse, Client.wake, hlink, if_pos hnow,
      Client.connected, Client.isUp]

/-! ### Runs on one connection -/

/-- The run starts what these lines start, as far as they were read. If everything was read, then a
connection that is still up has seen no line that is no text, and no end of the stream; one of these
has ended a connection that is not. -/
structure Follows (callbacks : String → List Nat) (lines : List (List UInt8)) (ended : Bool)
    (result : Client × List ClientAct) : Prop where
  begun : ∃ served, served <+: lines ∧ Dispatched callbacks served (starts result.2)
  caughtUp : result.1.isCaughtUp = true → Dispatched callbacks lines (starts result.2)
  stays : result.1.isCaughtUp = true → result.1.isUp = true →
    ended = false ∧ ∀ line ∈ lines, IsText line
  ends : result.1.isUp = false →
    result.1.Recovers ∧ (ended = true ∨ ∃ line ∈ lines, ¬ IsText line)

section Following

variable {callbacks : String → List Nat} {line : List UInt8} {lines : List (List UInt8)}
variable {ended : Bool} {result : Client × List ClientAct}

theorem Follows.unread (hup : result.1.isUp = true) (hstarts : starts result.2 = [])
    (hnone : result.1.isCaughtUp = true → ended = false ∧ lines = []) :
    Follows callbacks lines ended result where
  begun := ⟨[], List.nil_prefix, hstarts ▸ .done⟩
  caughtUp := by
    intro hcaught
    rw [hstarts, (hnone hcaught).2]
    exact .done
  stays := by
    intro hcaught _
    rw [(hnone hcaught).2]
    exact ⟨(hnone hcaught).1, List.forall_mem_nil _⟩
  ends := fun hdown => absurd hdown (by rw [hup]; exact Bool.noConfusion)

/-- Nothing is left of the stream. -/
theorem Follows.finished (h : result.1.Recovers) (hstarts : starts result.2 = []) :
    Follows callbacks [] true result where
  begun := ⟨[], List.nil_prefix, hstarts ▸ .done⟩
  caughtUp := fun _ => hstarts ▸ .done
  stays := fun _ hup => absurd hup (by rw [h.isUp]; exact Bool.noConfusion)
  ends := fun _ => ⟨h, .inl rfl⟩

/-- The next line is no text. -/
theorem Follows.garbled (h : result.1.Recovers) (hstarts : starts result.2 = [])
    (htext : ¬ IsText line) : Follows callbacks (line :: lines) ended result where
  begun := ⟨[], List.nil_prefix, hstarts ▸ .done⟩
  caughtUp := fun _ => hstarts ▸ .garbled htext
  stays := fun _ hup => absurd hup (by rw [h.isUp]; exact Bool.noConfusion)
  ends := fun _ => ⟨h, .inr ⟨line, List.mem_cons_self .., htext⟩⟩

/-- The next line is served before the others. -/
theorem Follows.reads {client : Client} {first rest : List ClientAct}
    (h : Follows callbacks lines ended (client, rest)) (htext : IsText line)
    (hline : ∀ {lines acts}, Dispatched callbacks lines acts →
      Dispatched callbacks (line :: lines) (starts first ++ acts)) :
    Follows callbacks (line :: lines) ended (client, first ++ rest) where
  begun := by
    obtain ⟨served, hprefix, hserved⟩ := h.begun
    refine ⟨line :: served, List.cons_prefix_cons.mpr ⟨rfl, hprefix⟩, ?_⟩
    rw [starts_append]
    exact hline hserved
  caughtUp := by
    intro hcaught
    rw [starts_append]
    exact hline (h.caughtUp hcaught)
  stays := by
    intro hcaught hup
    obtain ⟨hgoes, hall⟩ := h.stays hcaught hup
    exact ⟨hgoes, List.forall_mem_cons.mpr ⟨htext, hall⟩⟩
  ends := by
    intro hdown
    obtain ⟨hrecovers, hended | ⟨other, hmem, hother⟩⟩ := h.ends hdown
    · exact ⟨hrecovers, .inl hended⟩
    · exact ⟨hrecovers, .inr ⟨other, List.mem_cons_of_mem _ hmem, hother⟩⟩

/-- A move that starts nothing and reads nothing. -/
theorem Follows.quiet {client : Client} {first rest : List ClientAct}
    (h : Follows callbacks lines ended (client, rest)) (hquiet : starts first = []) :
    Follows callbacks lines ended (client, first ++ rest) := by
  have hstarts : starts (first ++ rest) = starts rest := by
    rw [starts_append, hquiet, List.nil_append]
  exact ⟨hstarts ▸ h.begun, hstarts ▸ h.caughtUp, h.stays, h.ends⟩

end Following

/-- A line that is a text starts what it is worth. -/
theorem dispatched_line {callbacks : String → List Nat}
    (hcallbacks : ∀ channel, client.callbacks channel = callbacks channel) {text shown : List Char}
    (hshown : Delivery.ofLine? shown = Delivery.ofLine? text) {lines : List (List UInt8)}
    {acts : List ClientAct} (h : Dispatched callbacks lines acts) :
    Dispatched callbacks (Text.Utf8.encode text :: lines)
      (starts (client.dispatch shown) ++ acts) := by
  unfold dispatch
  rw [hshown]
  cases hread : Delivery.ofLine? text with
  | none =>
    refine .ignored ⟨text, rfl⟩ (fun delivery hdelivery => ?_) h
    rw [Delivery.ofLine?_eq_some_iff.mpr hdelivery] at hread
    cases hread
  | some delivery =>
    have hstarts : starts ((client.callbacks delivery.channel).map (.started · delivery)) =
        (callbacks delivery.channel).map (.started · delivery) := by
      rw [hcallbacks]
      exact List.filter_eq_self.mpr (List.forall_mem_map.mpr fun _ _ => rfl)
    simp only [hstarts]
    exact .message (Delivery.ofLine?_eq_some_iff.mp hread) h

/-- Everything was read: nothing is complete, and the stream has not ended. -/
theorem unread_of_isCaughtUp (hup : client.link = .up ⟨greeting, sent, inbound⟩)
    (hcaught : client.isCaughtUp = true) :
    inbound.ended = false ∧ Inbound.lineBreak ∉ inbound.bytes := by
  have hwait : inbound.next.1 = .wait := by
    simp only [Client.isCaughtUp, hup] at hcaught
    split at hcaught
    · rename_i heq
      cases heq
      exact of_decide_eq_true hcaught
    · cases hcaught
    · rename_i hnone
      exact (hnone _ rfl).elim
  have hreads := inbound.next_reads
  rw [hwait] at hreads
  generalize inbound.next.2 = left at hreads
  cases hreads with
  | wait hended hbreak => exact ⟨hended, hbreak⟩

/-- If nothing arrives behind a hang-up, then it is so for the rest of the run. -/
theorem silent_cons {move : ClientMove} {rest : List ClientMove}
    (h : arrivals ((move :: rest).dropWhile (· ≠ .hangUp)) = []) :
    arrivals (rest.dropWhile (· ≠ .hangUp)) = [] ∧ (move = .hangUp → arrivals rest = []) := by
  by_cases hmove : move = .hangUp
  · rw [List.dropWhile_cons_of_neg (by simpa using hmove), arrivals_cons] at h
    have hrest := (List.append_eq_nil_iff.mp h).2
    refine ⟨?_, fun _ => hrest⟩
    rw [arrivals, List.flatMap_eq_nil_iff] at hrest ⊢
    exact fun other hmem => hrest other ((List.dropWhile_suffix _).subset hmem)
  · rw [List.dropWhile_cons_of_pos (by simpa using hmove)] at h
    exact ⟨h, fun heq => (hmove heq).elim⟩

/-- What a move does to a connection on which this has arrived and was not read. -/
inductive StreamStep (callbacks : String → List Nat) (inbound : Inbound) (move : ClientMove)
    (result : Client × List ClientAct) : Prop
  | keeps {greeting : Greeting} {sent : List String}
      (hup : result.1.link = .up ⟨greeting, sent, move.onStream inbound⟩)
      (hquiet : starts result.2 = [])
  | reads {line : List UInt8} {left : Inbound} {greeting : Greeting} {sent : List String}
      (hmove : move = .serveLine) (hnext : inbound.NextLine line left)
      (hup : result.1.link = .up ⟨greeting, sent, left⟩) (htext : IsText line)
      (hline : ∀ {lines acts}, Dispatched callbacks lines acts →
        Dispatched callbacks (line :: lines) (starts result.2 ++ acts))
  | ends (hmove : move = .serveLine) (hended : inbound.ended = true) (hbytes : inbound.bytes = [])
      (hdown : result.1.Recovers) (hquiet : starts result.2 = [])
  | breaks {line : List UInt8} {left : Inbound} (hmove : move = .serveLine)
      (hnext : inbound.NextLine line left) (htext : ¬ IsText line) (hdown : result.1.Recovers)
      (hquiet : starts result.2 = [])

theorem serveLine_streamStep {callbacks : String → List Nat}
    (hcallbacks : ∀ channel, client.callbacks channel = callbacks channel)
    (hup : client.link = .up ⟨greeting, sent, inbound⟩) :
    StreamStep callbacks inbound .serveLine client.serveLine := by
  have hreads := inbound.next_reads
  unfold Client.serveLine
  rw [hup]
  split
  · rename_i heq
    cases heq
    split
    · exact .keeps hup rfl
    · rename_i shown left hnext
      rw [hnext] at hreads
      cases hreads with
      | line hline htext hshown =>
        subst htext
        exact .reads rfl hline rfl ⟨_, rfl⟩ (dispatched_line hcallbacks hshown)
    · rename_i left hnext
      rw [hnext] at hreads
      cases hreads with
      | done hended hbytes => exact .ends rfl hended hbytes (recovers_rest client) rfl
    · rename_i left hnext
      rw [hnext] at hreads
      cases hreads with
      | garbled hline htext => exact .breaks rfl hline htext (recovers_rest client) rfl
  · exact .keeps hup rfl

theorem mayEnd_of_isPeaceful {move : ClientMove} (h : move.isPeaceful = true)
    (hmove : move ≠ .serveLine) : move.mayEnd greeting = false := by
  cases move with
  | replay fault | serveCommand fault =>
    cases fault with
    | none => rfl
    | some reason => cases h
  | serveLine => exact (hmove rfl).elim
  | shutDown => cases h
  | _ => rfl

theorem streamStep {callbacks : String → List Nat}
    (hcallbacks : ∀ channel, client.callbacks channel = callbacks channel)
    (hup : client.link = .up ⟨greeting, sent, inbound⟩) {move : ClientMove}
    (hpeaceful : move.isPeaceful = true) :
    StreamStep callbacks inbound move (client.step move) := by
  by_cases hmove : move = .serveLine
  · subst hmove
    exact serveLine_streamStep hcallbacks hup
  · obtain ⟨_, _, _, hkept⟩ := link_onStream hup (mayEnd_of_isPeaceful hpeaceful hmove)
    exact .keeps hkept (starts_step client hmove)

theorem callbacks_of_isPeaceful {move : ClientMove} (h : move.isPeaceful = true)
    (client : Client) (channel : String) :
    (client.step move).1.callbacks channel = client.callbacks channel := by
  have hnone : move.registration? channel = none := by
    cases move with
    | subscribe name callback =>
      have hname : isChannel name = false := by simpa [ClientMove.isPeaceful] using h
      exact if_neg fun hboth => by simp [hname] at hboth
    | _ => rfl
  rw [registered_step, hnone, Option.toList_none, List.append_nil]

/-- A connection that is up follows the stream, from what has arrived and was not read. -/
theorem follows_run {callbacks : String → List Nat}
    (hcallbacks : ∀ channel, client.callbacks channel = callbacks channel)
    (hup : client.link = .up ⟨greeting, sent, inbound⟩) {moves : List ClientMove}
    (hpeaceful : ∀ move ∈ moves, move.isPeaceful = true)
    (hended : inbound.ended = true → arrivals moves = [])
    (hsilent : arrivals (moves.dropWhile (· ≠ .hangUp)) = []) :
    Follows callbacks
      (streamLines (inbound.bytes ++ arrivals moves) (inbound.ended || moves.contains .hangUp))
      (inbound.ended || moves.contains .hangUp) (client.run moves) := by
  induction moves generalizing client greeting sent inbound with
  | nil =>
    have hisUp : client.isUp = true := by
      rw [Client.isUp, hup]
    refine Follows.unread hisUp rfl fun hcaught => ?_
    obtain ⟨hopen, hbreak⟩ := unread_of_isCaughtUp hup hcaught
    rw [hopen, arrivals, List.flatMap_nil, List.append_nil, streamLines_unbroken hbreak]
    exact ⟨rfl, rfl⟩
  | cons move rest ih =>
    rw [List.forall_mem_cons] at hpeaceful
    rw [arrivals_cons] at hended
    obtain ⟨hsilentRest, hlast⟩ := silent_cons hsilent
    have hendedRest : inbound.ended = true → arrivals rest = [] := fun h =>
      (List.append_eq_nil_iff.mp (hended h)).2
    have hmore : inbound.ended = true →
        arrivals rest = [] ∧ (inbound.ended || rest.contains .hangUp) = true := fun h =>
      ⟨hendedRest h, by rw [h, Bool.true_or]⟩
    have hsame : ∀ channel, (client.step move).1.callbacks channel = callbacks channel :=
      fun channel => (callbacks_of_isPeaceful hpeaceful.1 client channel).trans (hcallbacks channel)
    rw [run_cons, arrivals_cons, List.contains_cons]
    cases streamStep hcallbacks hup hpeaceful.1 with
    | keeps hkept hquiet =>
      have hquietRest : (move.onStream inbound).ended = true → arrivals rest = [] := by
        rw [onStream_ended, Bool.or_eq_true]
        rintro (hhungUp | hhangsUp)
        · exact hendedRest hhungUp
        · exact hlast (beq_iff_eq.mp hhangsUp).symm
      have hrest := ih hsame hkept hpeaceful.2 hquietRest hsilentRest
      rw [onStream_bytes, onStream_ended, Bool.or_assoc, List.append_assoc] at hrest
      exact hrest.quiet hquiet
    | reads hmove hnext hleft htext hline =>
      subst hmove
      have hrest := ih hsame hleft hpeaceful.2 (fun h => hendedRest (hnext.ended ▸ h)) hsilentRest
      rw [hnext.ended] at hrest
      have hlines := hnext.streamLines hmore
      exact hlines ▸ hrest.reads htext hline
    | ends hmove hhungUp hbytes hdown hquiet =>
      subst hmove
      obtain ⟨hrecovers, hnone⟩ := hdown.run hpeaceful.2
      have hstarts := (starts_append _ _).trans (congrArg₂ (· ++ ·) hquiet hnone)
      show Follows callbacks
        (streamLines (inbound.bytes ++ arrivals rest) (inbound.ended || rest.contains .hangUp))
        (inbound.ended || rest.contains .hangUp) _
      rw [hbytes, (hmore hhungUp).1, (hmore hhungUp).2]
      exact Follows.finished hrecovers hstarts
    | breaks hmove hnext htext hdown hquiet =>
      subst hmove
      obtain ⟨hrecovers, hnone⟩ := hdown.run hpeaceful.2
      have hstarts := (starts_append _ _).trans (congrArg₂ (· ++ ·) hquiet hnone)
      have hlines := hnext.streamLines hmore
      exact hlines ▸ Follows.garbled hrecovers hstarts htext

/-! ### Nothing is left to be read in the end -/

/-- By itself the client can read everything that has arrived. -/
def CanCatchUp (client : Client) : Prop :=
  ∃ own, (∀ move ∈ own, move.isOwn = true) ∧ (client.run own).1.isCaughtUp = true

theorem CanCatchUp.now (h : client.isCaughtUp = true) : client.CanCatchUp :=
  ⟨[], List.forall_mem_nil _, h⟩

theorem CanCatchUp.next (move : ClientMove) (hown : move.isOwn = true)
    (h : (client.step move).1.CanCatchUp) : client.CanCatchUp := by
  obtain ⟨own, hall, hcaught⟩ := h
  exact ⟨move :: own, List.forall_mem_cons.mpr ⟨hown, hall⟩, hcaught⟩

/-- Every line that is read leaves less to be read. -/
theorem canCatchUp_serving (hup : client.link = .up ⟨.serving, sent, inbound⟩) :
    client.CanCatchUp := by
  induction hlength : inbound.bytes.length using Nat.strong_induction_on
    generalizing client inbound with
  | _ length ih =>
    have hreads := inbound.next_reads
    cases hnext : inbound.next with
    | mk read left =>
      rw [hnext] at hreads
      cases hreads with
      | wait =>
        refine .now ?_
        rw [isCaughtUp, hup]
        simp [hnext]
      | line hline =>
        have hserved : client.serveLine.1.link = .up ⟨.serving, sent, left⟩ := by
          simp only [Client.serveLine, hup, hnext]
        exact .next .serveLine rfl (ih _ (hlength ▸ hline.shorter) hserved rfl)
      | done | garbled =>
        have hover : client.serveLine.1.Recovers := by
          simp only [Client.serveLine, hup, hnext]
          exact recovers_rest client
        exact .next .serveLine rfl (.now hover.isCaughtUp)

theorem canCatchUp_replaying {left : List String}
    (hup : client.link = .up ⟨.replaying left, sent, inbound⟩) : client.CanCatchUp := by
  induction left generalizing client sent with
  | nil =>
    have hserving : (client.replay none).1.link = .up ⟨.serving, sent, inbound⟩ := by
      simp only [Client.replay, hup]
    exact .next (.replay none) rfl (canCatchUp_serving hserving)
  | cons channel left ih =>
    have hreplayed : (client.replay none).1.link =
        .up ⟨.replaying left, channel :: sent, inbound⟩ := by
      simp only [Client.replay, hup]
    exact .next (.replay none) rfl (ih hreplayed)

theorem canCatchUp_emptied (hup : client.link = .up ⟨.emptied, sent, inbound⟩) :
    client.CanCatchUp := by
  obtain ⟨left, hlisted⟩ :
      ∃ left, (client.list []).link = .up ⟨.replaying left, sent, inbound⟩ := by
    simp only [Client.list, hup]
    exact ⟨_, rfl⟩
  exact .next (.list []) rfl (canCatchUp_replaying hlisted)

theorem canCatchUp_up (hup : client.link = .up ⟨greeting, sent, inbound⟩) :
    client.CanCatchUp := by
  cases greeting with
  | serving => exact canCatchUp_serving hup
  | replaying left => exact canCatchUp_replaying hup
  | emptied => exact canCatchUp_emptied hup
  | fresh =>
    have hempty : client.emptyQueue.1.link = .up ⟨.emptied, sent, inbound⟩ := by
      simp only [Client.emptyQueue, hup]
    exact .next .emptyQueue rfl (canCatchUp_emptied hempty)

theorem canCatchUp_of_isUp (h : client.isUp = true) : client.CanCatchUp := by
  unfold isUp at h
  split at h
  · rename_i connection hup
    exact canCatchUp_up hup
  · cases h

theorem isPeaceful_of_isOwn {move : ClientMove} (h : move.isOwn = true) :
    move.isPeaceful = true ∧ move.arrival = [] ∧ move ≠ .hangUp := by
  cases move with
  | replay fault => cases fault with
    | none => exact ⟨rfl, rfl, ClientMove.noConfusion⟩
    | some reason => cases h
  | emptyQueue | list | serveLine => exact ⟨rfl, rfl, ClientMove.noConfusion⟩
  | _ => cases h

theorem arrivals_own {own : List ClientMove} (h : ∀ move ∈ own, move.isOwn = true) :
    arrivals own = [] :=
  List.flatMap_eq_nil_iff.mpr fun move hmem => (isPeaceful_of_isOwn (h move hmem)).2.1

theorem contains_own {own : List ClientMove} (h : ∀ move ∈ own, move.isOwn = true) :
    own.contains .hangUp = false := by
  rw [List.contains_eq_mem]
  exact decide_eq_false fun hmem => (isPeaceful_of_isOwn (h _ hmem)).2.2 rfl

theorem silent_own {moves own : List ClientMove} (h : ∀ move ∈ own, move.isOwn = true)
    (hsilent : arrivals (moves.dropWhile (· ≠ .hangUp)) = []) :
    arrivals ((moves ++ own).dropWhile (· ≠ .hangUp)) = [] := by
  rw [List.dropWhile_append]
  split
  · exact arrivals_own fun move hmem => h move ((List.dropWhile_suffix _).subset hmem)
  · rw [arrivals, List.flatMap_append, ← arrivals, ← arrivals, hsilent, arrivals_own h]
    rfl

end Client

/-! ### On every connection -/

/-- What a connection starts is told by the bytes that the server sends on it. Let a client,
whatever has happened to it before, be connected. Then it may go on in any way in which it registers
no callback, no write fails, and nothing arrives behind a hang-up. At any time it has started the
callbacks that a beginning of the lines of the stream is worth; once everything was read, those of
all lines up to the first that is no text, each callback of the channel once and in the order in
which they were registered; and by itself it can read everything. Once everything was read, the
connection is up if and only if all lines are texts and the stream has not ended; and after the end
of a connection, when the pause is over, the client can be connected again. -/
theorem inbound_dispatch (address : String) (delay : Duration) (before moves : List ClientMove) :
    let client := ((Client.new address delay).run before).1
    let result := client.run (.connected :: moves)
    let lines := streamLines (arrivals moves) (moves.contains .hangUp)
    client.link = .connecting → (∀ move ∈ moves, move.isPeaceful = true) →
      arrivals (moves.dropWhile (· ≠ .hangUp)) = [] →
        (∃ served, served <+: lines ∧
          Dispatched (registrations before) served (starts result.2)) ∧
        (result.1.isCaughtUp = true →
          (∀ acts, Dispatched (registrations before) lines acts ↔ acts = starts result.2) ∧
            (result.1.isUp = true ↔
              moves.contains .hangUp = false ∧ ∀ line ∈ lines, IsText line)) ∧
        (∃ own, (∀ move ∈ own, move.isOwn = true) ∧ (result.1.run own).1.isCaughtUp = true ∧
          Dispatched (registrations before) lines
            (starts (client.run (.connected :: (moves ++ own))).2)) ∧
        (result.1.isUp = false → result.1.isConnected = false ∧
          (result.1.run [.elapse result.1.delay.sleepTicks, .wake, .connected]).1.isUp = true) := by
  intro client result lines hlink hpeaceful hsilent
  have hup : (client.step .connected).1.link = .up ⟨.fresh, [], .empty⟩ := by
    simp only [Client.step, Client.connected, hlink]
  have hcallbacks : ∀ channel,
      (client.step .connected).1.callbacks channel = registrations before channel := by
    intro channel
    rw [Client.registered_step, Client.registered_run]
    exact List.append_nil _
  have hfollows : ∀ moves : List ClientMove, (∀ move ∈ moves, move.isPeaceful = true) →
      arrivals (moves.dropWhile (· ≠ .hangUp)) = [] →
        Client.Follows (registrations before)
          (streamLines (arrivals moves) (moves.contains .hangUp)) (moves.contains .hangUp)
          (client.run (.connected :: moves)) := by
    intro moves hpeaceful hsilent
    have hquiet : starts (client.step .connected).2 = [] := Client.starts_step client (by simp)
    exact (Client.follows_run hcallbacks hup hpeaceful (fun h => by cases h) hsilent).quiet hquiet
  obtain ⟨hbegun, hcaughtUp, hstays, hends⟩ := hfollows moves hpeaceful hsilent
  refine ⟨hbegun, fun hcaught => ⟨fun acts => ?_, ?_⟩, ?_, fun hdown => ?_⟩
  · constructor
    · exact fun hacts => hacts.unique (hcaughtUp hcaught)
    · rintro rfl
      exact hcaughtUp hcaught
  · constructor
    · exact hstays hcaught
    · rintro ⟨hopen, hall⟩
      by_contra hdown
      rcases (hends (Bool.eq_false_iff.mpr hdown)).2 with hhungUp | ⟨line, hmem, hother⟩
      · exact Bool.false_ne_true (hopen.symm.trans hhungUp)
      · exact hother (hall line hmem)
  · obtain ⟨own, hown, hcaught⟩ : result.1.CanCatchUp := by
      cases hisUp : result.1.isUp with
      | true => exact Client.canCatchUp_of_isUp hisUp
      | false => exact .now (hends hisUp).1.isCaughtUp
    refine ⟨own, hown, hcaught, ?_⟩
    have hboth : ∀ move ∈ moves ++ own, move.isPeaceful = true := by
      rw [List.forall_mem_append]
      exact ⟨hpeaceful, fun move hmem => (Client.isPeaceful_of_isOwn (hown move hmem)).1⟩
    have hlonger := hfollows (moves ++ own) hboth (Client.silent_own hown hsilent)
    have harrivals : arrivals (moves ++ own) = arrivals moves := by
      rw [arrivals, List.flatMap_append, ← arrivals, ← arrivals, Client.arrivals_own hown,
        List.append_nil]
    have hcontains : (moves ++ own).contains .hangUp = moves.contains .hangUp := by
      rw [List.contains_append, Client.contains_own hown, Bool.or_false]
    rw [harrivals, hcontains] at hlonger
    refine hlonger.caughtUp ?_
    rw [← List.cons_append, Client.run_append]
    exact hcaught
  · exact ⟨(hends hdown).1.flag, (hends hdown).1.reconnects⟩

/-- A message that is cut in two, a line for nobody, a line that is no text, and another message
behind it; a command is served in between. -/
def garbledMoves : List ClientMove :=
  [.emptyQueue, .list ["ab01"], .replay none, .replay none, .receive [97, 98, 48, 49, 33],
    .serveLine, .announce "ab01" "7", .receive [49, 33, 13, 10, 120, 33, 49, 10], .serveLine,
    .serveCommand none, .serveLine, .receive [255, 10, 97, 98, 48, 49, 33, 50, 10], .serveLine,
    .serveLine]

/-- The first message reaches both callbacks, and the second one nobody. -/
theorem inbound_dispatch_garbled :
    let before : List ClientMove := [.subscribe "ab01" 0, .enqueue "ab01", .subscribe "ab01" 1]
    let result := (((Client.new "" Client.standardDelay).run before).1).run
      (.connected :: garbledMoves)
    let acts : List ClientAct := [.started 0 ⟨"ab01", "1!"⟩, .started 1 ⟨"ab01", "1!"⟩]
    starts result.2 = acts ∧
      Dispatched (registrations before) (streamLines (arrivals garbledMoves) false) acts ∧
      (result.1.run [.elapse result.1.delay.sleepTicks, .wake, .connected]).1.isUp = true := by
  intro before result acts
  obtain ⟨-, hcaughtUp, -, hends⟩ := inbound_dispatch "" Client.standardDelay before garbledMoves
    (by decide +kernel) (by decide +kernel) (by decide +kernel)
  have hstarts : starts result.2 = acts := by decide +kernel
  exact ⟨hstarts, ((hcaughtUp (by decide +kernel)).1 acts).mpr hstarts.symm,
    (hends (by decide +kernel)).2⟩

end ReplicaSync.Fanout
