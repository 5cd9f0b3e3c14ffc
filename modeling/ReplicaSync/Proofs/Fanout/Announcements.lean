import Mathlib.Data.List.Basic
import ReplicaSync.Proofs.Fanout.Replay

/-!
# Announcements on one connection

An announcement is accepted only while a connection serves the queue. The queue is served from its
front, and what is left of it when the connection ends is thrown away by the next one before that
one can accept anything. So what is written on a connection is always the first part of what was
accepted for it. Main statement: `announcements_not_replayed`.
-/

namespace ReplicaSync.Fanout

/-! ### Announcements in a run -/

/-- The announcement, if one was accepted for this connection. -/
def ClientAct.acceptedOn? (connection : Nat) : ClientAct → Option (String × String)
  | .accepted number channel message =>
    if number = connection then some (channel, message) else none
  | _ => none

/-- The announcement, if one was written on this connection. -/
def ClientAct.announcedOn? (connection : Nat) : ClientAct → Option (String × String)
  | .wrote number (.announce channel message) =>
    if number = connection then some (channel, message) else none
  | _ => none

/-- The announcements accepted for a connection, in the order of the calls. -/
def acceptedOn (connection : Nat) (acts : List ClientAct) : List (String × String) :=
  acts.filterMap (ClientAct.acceptedOn? connection)

/-- The announcements written on a connection, in the order of their lines. -/
def announcedOn (connection : Nat) (acts : List ClientAct) : List (String × String) :=
  acts.filterMap (ClientAct.announcedOn? connection)

def Command.announcement? : Command → Option (String × String)
  | .announce channel message => some (channel, message)
  | .subscribe _ => none

/-- The announcements that wait in a queue. -/
def waiting (queue : List Command) : List (String × String) :=
  queue.filterMap Command.announcement?

/-- The act shows that a command was accepted or written. -/
def ClientAct.showsCommand : ClientAct → Bool
  | .wrote _ _ | .accepted _ _ _ => true
  | _ => false

/-- Nothing was accepted or written. -/
def Quiet (acts : List ClientAct) : Prop := ∀ act ∈ acts, act.showsCommand = false

section Lists

variable (connection : Nat) (a b : List ClientAct)

theorem acceptedOn_append :
    acceptedOn connection (a ++ b) = acceptedOn connection a ++ acceptedOn connection b :=
  List.filterMap_append

theorem announcedOn_append :
    announcedOn connection (a ++ b) = announcedOn connection a ++ announcedOn connection b :=
  List.filterMap_append

theorem waiting_append (queue : List Command) (command : Command) :
    waiting (queue ++ [command]) = waiting queue ++ command.announcement?.toList := by
  unfold waiting
  rw [List.filterMap_append]
  cases command <;> rfl

theorem waiting_cons (command : Command) (queue : List Command) :
    waiting (command :: queue) = command.announcement?.toList ++ waiting queue := by
  cases command <;> rfl

end Lists

theorem Quiet.acceptedOn {acts : List ClientAct} (h : Quiet acts) (connection : Nat) :
    acceptedOn connection acts = [] := by
  refine List.filterMap_eq_nil_iff.mpr fun act hmem => ?_
  have hact := h act hmem
  cases act with
  | accepted => cases hact
  | _ => rfl

theorem Quiet.announcedOn {acts : List ClientAct} (h : Quiet acts) (connection : Nat) :
    announcedOn connection acts = [] := by
  refine List.filterMap_eq_nil_iff.mpr fun act hmem => ?_
  have hact := h act hmem
  cases act with
  | wrote => cases hact
  | _ => rfl

theorem acceptedOn_accepted (connection number : Nat) (channel message : String) :
    acceptedOn connection [.accepted number channel message] =
      if number = connection then [(channel, message)] else [] := by
  by_cases h : number = connection <;> simp [acceptedOn, ClientAct.acceptedOn?, h]

theorem acceptedOn_wrote (connection number : Nat) (command : Command) :
    acceptedOn connection [.wrote number command] = [] := rfl

theorem announcedOn_accepted (connection number : Nat) (channel message : String) :
    announcedOn connection [.accepted number channel message] = [] := rfl

theorem announcedOn_wrote (connection number : Nat) (command : Command) :
    announcedOn connection [.wrote number command] =
      if number = connection then command.announcement?.toList else [] := by
  cases command with
  | subscribe channel => simp [announcedOn, ClientAct.announcedOn?, Command.announcement?]
  | announce channel message =>
    by_cases h : number = connection <;>
      simp [announcedOn, ClientAct.announcedOn?, Command.announcement?, h]

/-! ### What a step does to the commands -/

/-- How a link stands to the commands in the queue. -/
inductive Phase where
  /-- There is no connection. -/
  | closed
  /-- The commands are left over from an earlier connection. -/
  | fresh
  /-- The commands are for the connection that is up. -/
  | opened
  deriving DecidableEq

def Link.phase : Link → Phase
  | .up connection => if connection.greeting = .fresh then .fresh else .opened
  | .connecting | .sleeping _ | .gone => .closed

namespace Client

/-- What a step does to the commands, with what can be seen of it. -/
inductive Handles (before : Client) : Client → List ClientAct → Prop where
  /-- No command comes or goes, and the connection stays or ends. -/
  | keeps (after : Client) (acts : List ClientAct) (hqueue : after.queue = before.queue)
      (hconnections : after.connections = before.connections)
      (hphase : after.link.phase = before.link.phase ∨ after.link.phase = .closed)
      (hacts : Quiet acts) : Handles before after acts
  /-- A connection comes up. -/
  | connects (acts : List ClientAct) (hlink : before.link = .connecting) (hacts : Quiet acts) :
    Handles before { before with
      connections := before.connections + 1, link := .up ⟨.fresh, [], .empty⟩ } acts
  /-- The commands of an earlier connection are thrown away. -/
  | discards (sent : List String) (inbound : Inbound) (acts : List ClientAct)
      (hlink : before.link = .up ⟨.fresh, sent, inbound⟩) (hacts : Quiet acts) :
    Handles before { before with queue := [], link := .up ⟨.emptied, sent, inbound⟩ } acts
  /-- A subscriber queues its command. -/
  | queues (channel : String) (after : Client) (acts : List ClientAct)
      (hqueue : after.queue = before.queue ++ [.subscribe channel])
      (hconnections : after.connections = before.connections) (hlink : after.link = before.link)
      (hacts : Quiet acts) : Handles before after acts
  /-- An announcement is accepted. -/
  | accepts (channel message : String) (hflag : before.isConnected = true)
      (hphase : before.link.phase = .opened) :
    Handles before { before with queue := before.queue ++ [.announce channel message] }
      [.accepted before.connections channel message]
  /-- A subscription is replayed. -/
  | replays (channel : String) (after : Client) (hqueue : after.queue = before.queue)
      (hconnections : after.connections = before.connections)
      (hphase : before.link.phase = .opened) (hafter : after.link.phase = .opened) :
    Handles before after [.wrote before.connections (.subscribe channel)]
  /-- The next command is written. -/
  | writes (command : Command) (after : Client) (hqueue : before.queue = command :: after.queue)
      (hconnections : after.connections = before.connections)
      (hphase : before.link.phase = .opened) (hafter : after.link.phase = .opened) :
    Handles before after [.wrote before.connections command]
  /-- The next command is a subscription that the connection has. -/
  | skips (channel : String) (connection : Connection) (after : Client)
      (hqueue : before.queue = .subscribe channel :: after.queue)
      (hlink : before.link = .up connection) (hsent : channel ∈ connection.sent)
      (hconnections : after.connections = before.connections) (hafter : after.link = before.link)
      (hphase : before.link.phase = .opened) : Handles before after []
  /-- The connection breaks at the next command. -/
  | breaks (command : Command) (after : Client) (acts : List ClientAct)
      (hqueue : before.queue = command :: after.queue)
      (hconnections : after.connections = before.connections)
      (hphase : before.link.phase = .opened) (hafter : after.link.phase = .closed)
      (hacts : Quiet acts) : Handles before after acts

theorem quiet_nil : Quiet [] := List.forall_mem_nil _

theorem quiet_note (level : LogLevel) (message : String) (fields : List (String × String)) :
    Quiet [note level message fields] := by
  intro act hmem
  rw [List.mem_singleton.mp hmem]
  rfl

theorem quiet_refused (error : AdapterError) : Quiet [.refused error] := by
  intro act hmem
  rw [List.mem_singleton.mp hmem]
  rfl

section Steps

variable {client : Client} {written : List (Nat × String)}

theorem handles_self {acts : List ClientAct} (hacts : Quiet acts) :
    client.Handles client acts :=
  .keeps client acts rfl rfl (.inl rfl) hacts

theorem handles_subscribe (channel : String) (callback : Nat) :
    client.Handles (client.subscribe channel callback).1
      (client.subscribe channel callback).2 := by
  unfold Client.subscribe
  split
  · exact handles_self (quiet_refused _)
  · split
    · exact .keeps _ _ rfl rfl (.inl rfl) quiet_nil
    · exact .keeps _ _ rfl rfl (.inl rfl) (quiet_note _ _ _)

theorem handles_enqueue (channel : String) :
    client.Handles (client.enqueue channel).1 (client.enqueue channel).2 := by
  unfold Client.enqueue
  split
  · split
    · exact .queues channel _ _ rfl rfl rfl (quiet_note _ _ _)
    · exact .keeps _ _ rfl rfl (.inl rfl) (quiet_refused _)
  · exact handles_self quiet_nil

/-- While the flag is up and the connection task is there, a connection serves the queue. -/
theorem Sound.serving (h : client.Sound written) (hflag : client.isConnected = true)
    (hlink : client.link ≠ .gone) :
    ∃ sent inbound, client.link = .up ⟨.serving, sent, inbound⟩ := by
  have hup : client.isConnected ≠ false := by
    rw [hflag]
    exact Bool.noConfusion
  cases hcase : client.link with
  | connecting | sleeping =>
    have hdown := h.link
    rw [hcase] at hdown
    exact (hup hdown).elim
  | gone => exact (hlink hcase).elim
  | up connection =>
    obtain ⟨_, hgreeting⟩ := h.up hcase
    obtain ⟨greeting, sent, inbound⟩ := connection
    cases greeting with
    | fresh | emptied | replaying => exact (hup hgreeting.1).elim
    | serving => exact ⟨sent, inbound, rfl⟩

theorem handles_announce (h : client.Sound written) (channel message : String) :
    client.Handles (client.announce channel message).1 (client.announce channel message).2 := by
  unfold Client.announce
  split
  · exact handles_self (quiet_refused _)
  · rename_i hfault
    have hflag : client.isConnected = true := by
      by_contra hdown
      rw [Bool.not_eq_true] at hdown
      unfold announceFault? at hfault
      split at hfault <;> simp [hdown] at hfault
    have htakes : client.link ≠ .gone := by
      intro hgone
      unfold announceFault? at hfault
      split at hfault <;> simp [hflag, takesCommands, hgone] at hfault
    obtain ⟨sent, inbound, hlink⟩ := h.serving hflag htakes
    refine .accepts channel message hflag ?_
    rw [hlink]
    rfl

theorem handles_rest {acts : List ClientAct} (hacts : Quiet acts) :
    client.Handles client.rest acts :=
  .keeps _ _ rfl rfl (.inr rfl) hacts

theorem handles_connected : client.Handles client.connected.1 client.connected.2 := by
  unfold Client.connected
  split
  · exact .connects _ ‹_› (quiet_note _ _ _)
  · exact handles_self quiet_nil

theorem handles_unreachable (reason : String) :
    client.Handles (client.unreachable reason).1 (client.unreachable reason).2 := by
  unfold Client.unreachable
  split
  · exact handles_rest (quiet_note _ _ _)
  · exact handles_self quiet_nil

theorem handles_emptyQueue : client.Handles client.emptyQueue.1 client.emptyQueue.2 := by
  unfold Client.emptyQueue
  split
  · rename_i sent inbound hlink
    refine .discards sent inbound _ hlink ?_
    by_cases hstale : announcements client.queue = 0
    · simp only [if_pos hstale]
      exact quiet_nil
    · simp only [if_neg hstale]
      exact quiet_note _ _ _
  · exact handles_self quiet_nil

theorem handles_list (order : List String) : client.Handles (client.list order) [] := by
  unfold Client.list
  split
  · rename_i hlink
    refine .keeps _ _ rfl rfl (.inl ?_) quiet_nil
    rw [hlink]
    rfl
  · exact handles_self quiet_nil

theorem handles_replay (fault : Option String) :
    client.Handles (client.replay fault).1 (client.replay fault).2 := by
  unfold Client.replay
  split
  · rename_i channel left sent inbound hlink
    cases fault with
    | some reason => exact handles_rest (quiet_note _ _ _)
    | none =>
      refine .replays channel _ rfl rfl ?_ rfl
      rw [hlink]
      rfl
  · rename_i hlink
    refine .keeps _ _ rfl rfl (.inl ?_) quiet_nil
    rw [hlink]
    rfl
  · exact handles_self quiet_nil

theorem handles_serveCommand (fault : Option String) :
    client.Handles (client.serveCommand fault).1 (client.serveCommand fault).2 := by
  unfold Client.serveCommand
  split
  · rename_i sent inbound command queue hlink hqueue
    have hphase : client.link.phase = .opened := by
      rw [hlink]
      rfl
    by_cases hrepeated : isRepeated sent command = true
    · rw [if_pos hrepeated]
      cases command with
      | announce => cases hrepeated
      | subscribe channel =>
        exact .skips channel _ _ hqueue hlink (List.contains_iff_mem.mp hrepeated) rfl rfl hphase
    · rw [if_neg hrepeated]
      cases fault with
      | some reason => exact .breaks command _ _ hqueue rfl hphase rfl (quiet_note _ _ _)
      | none => exact .writes command _ hqueue rfl hphase rfl
  · exact handles_self quiet_nil

theorem quiet_dispatch (line : List Char) : Quiet (client.dispatch line) := by
  unfold Client.dispatch
  split
  · exact quiet_note _ _ _
  · intro act hmem
    obtain ⟨callback, _, rfl⟩ := List.mem_map.mp hmem
    rfl

theorem handles_serveLine : client.Handles client.serveLine.1 client.serveLine.2 := by
  unfold Client.serveLine
  split
  · rename_i sent inbound hlink
    split
    · exact handles_self quiet_nil
    · refine .keeps _ _ rfl rfl (.inl ?_) (quiet_dispatch _)
      rw [hlink]
      rfl
    · exact handles_rest (quiet_note _ _ _)
    · exact handles_rest (quiet_note _ _ _)
  · exact handles_self quiet_nil

theorem handles_onInbound (change : Inbound → Inbound) :
    client.Handles (client.onInbound change) [] := by
  unfold Client.onInbound
  split
  · rename_i hlink
    refine .keeps _ _ rfl rfl (.inl ?_) quiet_nil
    rw [hlink]
    rfl
  · exact handles_self quiet_nil

theorem handles_wake : client.Handles client.wake [] := by
  unfold Client.wake
  split
  · rename_i hlink
    split
    · refine .keeps _ _ rfl rfl (.inl ?_) quiet_nil
      rw [hlink]
      rfl
    · exact handles_self quiet_nil
  · exact handles_self quiet_nil

theorem handles_elapse (ms : Nat) : client.Handles (client.elapse ms) [] := by
  unfold Client.elapse
  split
  · exact .keeps _ _ rfl rfl (.inl rfl) quiet_nil
  · exact .keeps _ _ rfl rfl (.inl rfl) quiet_nil

theorem handles_step (h : client.Sound written) (move : ClientMove) :
    client.Handles (client.step move).1 (client.step move).2 := by
  cases move with
  | subscribe channel callback => exact handles_subscribe channel callback
  | enqueue channel => exact handles_enqueue channel
  | announce channel message => exact handles_announce h channel message
  | connected => exact handles_connected
  | unreachable reason => exact handles_unreachable reason
  | emptyQueue => exact handles_emptyQueue
  | list order => exact handles_list order
  | replay fault => exact handles_replay fault
  | serveCommand fault => exact handles_serveCommand fault
  | serveLine => exact handles_serveLine
  | receive bytes => exact handles_onInbound (·.receive bytes)
  | hangUp => exact handles_onInbound (·.hangUp)
  | wake => exact handles_wake
  | elapse ms => exact handles_elapse ms
  | shutDown => exact .keeps _ _ rfl rfl (.inr rfl) quiet_nil

end Steps

/-! ### The account of announcements -/

/-- The announcements of the connection that is up: none was accepted before its queue was emptied,
and from then on each that was accepted is written or waits. -/
def CurrentAccount (client : Client) (acts : List ClientAct) : Phase → Prop
  | .closed => True
  | .fresh => acceptedOn client.connections acts = []
  | .opened => acceptedOn client.connections acts =
      announcedOn client.connections acts ++ waiting client.queue

/-- The announcements of all connections. -/
structure Accounts (client : Client) (acts : List ClientAct) : Prop where
  later : ∀ connection, client.connections < connection → acceptedOn connection acts = []
  first : ∀ connection, announcedOn connection acts <+: acceptedOn connection acts
  current : client.CurrentAccount acts client.link.phase

theorem accounts_new (address : String) (delay : Duration) : (new address delay).Accounts [] where
  later := fun _ _ => rfl
  first := fun _ => List.prefix_refl _
  current := trivial

section Accounts

variable {client after : Client} {acts : List ClientAct}

theorem Accounts.later_quiet (h : client.Accounts acts) {more : List ClientAct}
    (hconnections : client.connections ≤ after.connections) (hmore : Quiet more) :
    ∀ connection, after.connections < connection →
      acceptedOn connection (acts ++ more) = [] := by
  intro connection hlt
  rw [acceptedOn_append, hmore.acceptedOn, List.append_nil]
  exact h.later connection (by omega)

theorem Accounts.first_quiet (h : client.Accounts acts) {more : List ClientAct}
    (hmore : Quiet more) (connection : Nat) :
    announcedOn connection (acts ++ more) <+: acceptedOn connection (acts ++ more) := by
  rw [acceptedOn_append, announcedOn_append, hmore.acceptedOn, hmore.announcedOn,
    List.append_nil, List.append_nil]
  exact h.first connection

/-- A step that accepts and writes nothing, with the same announcements waiting or no connection
left. -/
theorem Accounts.quiet (h : client.Accounts acts) {more : List ClientAct} (hmore : Quiet more)
    (hconnections : after.connections = client.connections)
    (hphase :
      after.link.phase = client.link.phase ∧ waiting after.queue = waiting client.queue ∨
      after.link.phase = .closed ∨
      client.link.phase = .fresh ∧ after.link.phase = .opened ∧ waiting after.queue = []) :
    after.Accounts (acts ++ more) := by
  refine ⟨h.later_quiet (Nat.le_of_eq hconnections.symm) hmore, h.first_quiet hmore, ?_⟩
  have hcurrent := h.current
  have hfirst := h.first client.connections
  rcases hphase with ⟨hsame, hwaiting⟩ | hclosed | ⟨hfresh, hopened, hnone⟩
  · rw [hsame]
    cases hcase : client.link.phase with
    | closed => trivial
    | fresh | opened =>
      rw [hcase] at hcurrent
      simpa only [CurrentAccount, hconnections, acceptedOn_append, announcedOn_append,
        hmore.acceptedOn, hmore.announcedOn, List.append_nil, hwaiting] using hcurrent
  · rw [hclosed]
    trivial
  · -- nothing was accepted for the connection before, so nothing was written on it
    rw [hfresh] at hcurrent
    change acceptedOn client.connections acts = [] at hcurrent
    rw [hcurrent, List.prefix_nil] at hfirst
    rw [hopened]
    simp only [CurrentAccount, hconnections, acceptedOn_append, announcedOn_append,
      hmore.acceptedOn, hmore.announcedOn, hcurrent, hfirst, hnone, List.append_nil]

theorem Accounts.connects (h : client.Accounts acts) {more : List ClientAct} {link : Link}
    (hmore : Quiet more) (hphase : link.phase = .fresh) :
    Accounts { client with connections := client.connections + 1, link } (acts ++ more) := by
  refine ⟨h.later_quiet (Nat.le_succ _) hmore, h.first_quiet hmore, ?_⟩
  show CurrentAccount _ _ link.phase
  rw [hphase]
  show acceptedOn (client.connections + 1) (acts ++ more) = []
  rw [acceptedOn_append, hmore.acceptedOn, List.append_nil]
  exact h.later _ (Nat.lt_succ_self _)

theorem Accounts.accepts (h : client.Accounts acts) (channel message : String)
    (hphase : client.link.phase = .opened) :
    Accounts { client with queue := client.queue ++ [.announce channel message] }
      (acts ++ [.accepted client.connections channel message]) := by
  have hcurrent := h.current
  rw [hphase] at hcurrent
  change acceptedOn client.connections acts = _ at hcurrent
  refine ⟨?_, ?_, ?_⟩
  · intro connection hlt
    have hne : client.connections ≠ connection := Nat.ne_of_lt hlt
    rw [acceptedOn_append, acceptedOn_accepted, if_neg hne, List.append_nil]
    exact h.later connection hlt
  · intro connection
    rw [announcedOn_append, announcedOn_accepted, List.append_nil, acceptedOn_append]
    exact (h.first connection).trans (List.prefix_append _ _)
  · show CurrentAccount _ _ client.link.phase
    rw [hphase]
    show acceptedOn client.connections _ = announcedOn client.connections _ ++ _
    rw [acceptedOn_append, announcedOn_append, acceptedOn_accepted, announcedOn_accepted,
      waiting_append, if_pos rfl, List.append_nil, hcurrent, List.append_assoc]
    rfl

/-- The announcement at the front of the queue is the first one that is not written. -/
theorem Accounts.writes (h : client.Accounts acts) {command : Command}
    (hwaiting : waiting client.queue = command.announcement?.toList ++ waiting after.queue)
    (hconnections : after.connections = client.connections)
    (hphase : client.link.phase = .opened) (hafter : after.link.phase = .opened) :
    after.Accounts (acts ++ [.wrote client.connections command]) := by
  have hcurrent := h.current
  rw [hphase] at hcurrent
  change acceptedOn client.connections acts = _ at hcurrent
  rw [hwaiting, ← List.append_assoc] at hcurrent
  refine ⟨?_, ?_, ?_⟩
  · intro connection hlt
    rw [acceptedOn_append, acceptedOn_wrote, List.append_nil]
    exact h.later connection (hconnections ▸ hlt)
  · intro connection
    rw [acceptedOn_append, acceptedOn_wrote, List.append_nil, announcedOn_append,
      announcedOn_wrote]
    by_cases hsame : client.connections = connection
    · subst hsame
      rw [if_pos rfl, hcurrent]
      exact List.prefix_append _ _
    · rw [if_neg hsame, List.append_nil]
      exact h.first connection
  · rw [hafter]
    show acceptedOn after.connections _ = announcedOn after.connections _ ++ _
    rw [hconnections, acceptedOn_append, acceptedOn_wrote, List.append_nil, announcedOn_append,
      announcedOn_wrote, if_pos rfl]
    exact hcurrent

theorem Accounts.step (h : client.Accounts acts) {more : List ClientAct}
    (hstep : client.Handles after more) : after.Accounts (acts ++ more) := by
  cases hstep with
  | keeps _ _ hqueue hconnections hphase hmore =>
    refine h.quiet hmore hconnections ?_
    rcases hphase with hsame | hclosed
    · exact .inl ⟨hsame, by rw [hqueue]⟩
    · exact .inr (.inl hclosed)
  | connects _ hlink hmore => exact h.connects hmore rfl
  | discards sent inbound _ hlink hmore =>
    refine h.quiet hmore rfl (.inr (.inr ⟨?_, rfl, rfl⟩))
    rw [hlink]
    rfl
  | queues channel _ _ hqueue hconnections hlink hmore =>
    refine h.quiet hmore hconnections (.inl ⟨by rw [hlink], ?_⟩)
    rw [hqueue, waiting_append]
    exact List.append_nil _
  | accepts channel message hflag hphase => exact h.accepts channel message hphase
  | replays channel _ hqueue hconnections hphase hafter =>
    refine h.writes ?_ hconnections hphase hafter
    rw [hqueue]
    rfl
  | writes command _ hqueue hconnections hphase hafter =>
    refine h.writes ?_ hconnections hphase hafter
    rw [hqueue, waiting_cons]
  | skips channel _ _ hqueue _ _ hconnections hafter hphase =>
    refine h.quiet quiet_nil hconnections (.inl ⟨by rw [hafter], ?_⟩)
    rw [hqueue]
    rfl
  | breaks command _ _ hqueue hconnections hphase hafter hmore =>
    exact h.quiet hmore hconnections (.inr (.inl hafter))

/-- Nothing is accepted for a connection that is not open, and nothing is written on it. -/
theorem Handles.of_accepted {more : List ClientAct} (hstep : client.Handles after more)
    {connection : Nat} {channel message : String}
    (hmem : .accepted connection channel message ∈ more) :
    connection = client.connections ∧ client.isConnected = true ∧
      client.link.phase = .opened := by
  cases hstep with
  | accepts _ _ hflag hphase =>
    cases List.mem_singleton.mp hmem
    exact ⟨rfl, hflag, hphase⟩
  | keeps _ _ _ _ _ hmore | connects _ _ hmore | discards _ _ _ _ hmore
  | queues _ _ _ _ _ _ hmore | breaks _ _ _ _ _ _ _ hmore => cases hmore _ hmem
  | replays | writes => cases List.mem_singleton.mp hmem
  | skips => cases hmem

theorem Handles.of_wrote {more : List ClientAct} (hstep : client.Handles after more)
    {connection : Nat} {command : Command} (hmem : .wrote connection command ∈ more) :
    connection = client.connections ∧ client.link.phase = .opened := by
  cases hstep with
  | replays _ _ _ _ hphase | writes _ _ _ _ hphase =>
    cases List.mem_singleton.mp hmem
    exact ⟨rfl, hphase⟩
  | keeps _ _ _ _ _ hmore | connects _ _ hmore | discards _ _ _ _ hmore
  | queues _ _ _ _ _ _ hmore | breaks _ _ _ _ _ _ _ hmore => cases hmore _ hmem
  | accepts => cases List.mem_singleton.mp hmem
  | skips => cases hmem

/-! ### Connections that are over -/

/-- The connection with this number came up and is not there any more. -/
def HasEnded (client : Client) (connection : Nat) : Prop :=
  connection < client.connections ∨
    connection = client.connections ∧ client.link.phase = .closed

theorem HasEnded.kept {connection : Nat} (h : client.HasEnded connection)
    (hconnections : after.connections = client.connections)
    (hphase : client.link.phase = .closed → after.link.phase = .closed) :
    after.HasEnded connection := by
  rcases h with hlt | ⟨heq, hclosed⟩
  · exact .inl (hconnections ▸ hlt)
  · exact .inr ⟨heq.trans hconnections.symm, hphase hclosed⟩

theorem HasEnded.step {connection : Nat} (h : client.HasEnded connection)
    {more : List ClientAct} (hstep : client.Handles after more) : after.HasEnded connection := by
  cases hstep with
  | keeps _ _ _ hconnections hphase _ =>
    refine h.kept hconnections fun hclosed => ?_
    rcases hphase with hsame | hnow
    · exact hsame.trans hclosed
    · exact hnow
  | connects =>
    refine .inl ?_
    rcases h with hlt | ⟨heq, _⟩
    · exact Nat.lt_succ_of_lt hlt
    · exact Nat.lt_succ_of_le (Nat.le_of_eq heq)
  | discards sent inbound _ hlink _ =>
    refine h.kept rfl fun hclosed => ?_
    rw [hlink] at hclosed
    cases hclosed
  | queues _ _ _ _ hconnections hlink _ =>
    exact h.kept hconnections fun hclosed => hlink ▸ hclosed
  | accepts => exact h.kept rfl id
  | replays _ _ _ hconnections hphase | writes _ _ _ hconnections hphase =>
    refine h.kept hconnections fun hclosed => ?_
    rw [hphase] at hclosed
    cases hclosed
  | skips _ _ _ _ _ _ hconnections hlink =>
    exact h.kept hconnections fun hclosed => hlink ▸ hclosed
  | breaks _ _ _ _ hconnections _ hafter _ => exact h.kept hconnections fun _ => hafter

theorem HasEnded.silent {connection : Nat} (h : client.HasEnded connection)
    {more : List ClientAct} (hstep : client.Handles after more) :
    ∀ act ∈ more, act.acceptedOn? connection = none ∧ act.announcedOn? connection = none := by
  -- an act that counts is for the connection that is up
  have hopen : client.link.phase = .opened → connection ≠ client.connections := by
    intro hphase heq
    rcases h with hlt | ⟨_, hclosed⟩
    · omega
    · rw [hphase] at hclosed
      cases hclosed
  intro act hmem
  cases act with
  | started | refused | log => exact ⟨rfl, rfl⟩
  | accepted number channel message =>
    obtain ⟨rfl, _, hphase⟩ := hstep.of_accepted hmem
    exact ⟨if_neg (hopen hphase).symm, rfl⟩
  | wrote number command =>
    obtain ⟨rfl, hphase⟩ := hstep.of_wrote hmem
    cases command with
    | subscribe => exact ⟨rfl, rfl⟩
    | announce => exact ⟨rfl, if_neg (hopen hphase).symm⟩

end Accounts

/-! ### Runs -/

section Runs

variable {client : Client} {written : List (Nat × String)} {acts : List ClientAct}

theorem Accounts.run (h : client.Accounts acts) (hsound : client.Sound written)
    (moves : List ClientMove) :
    (client.run moves).1.Accounts (acts ++ (client.run moves).2) := by
  induction moves generalizing client written acts with
  | nil =>
    show client.Accounts (acts ++ [])
    rw [List.append_nil]
    exact h
  | cons move rest ih =>
    have hrest := ih (h.step (handles_step hsound move)) (hsound.step move).sound
    rw [List.append_assoc] at hrest
    exact hrest

theorem HasEnded.run {connection : Nat} (h : client.HasEnded connection)
    (hsound : client.Sound written) (moves : List ClientMove) :
    acceptedOn connection (client.run moves).2 = [] ∧
      announcedOn connection (client.run moves).2 = [] := by
  induction moves generalizing client written with
  | nil => exact ⟨rfl, rfl⟩
  | cons move rest ih =>
    have hstep := handles_step hsound move
    have hsilent := h.silent hstep
    obtain ⟨haccepted, hannounced⟩ := ih (h.step hstep) (hsound.step move).sound
    constructor
    · rw [run_cons, acceptedOn_append, haccepted, List.append_nil]
      exact List.filterMap_eq_nil_iff.mpr fun act hmem => (hsilent act hmem).1
    · rw [run_cons, announcedOn_append, hannounced, List.append_nil]
      exact List.filterMap_eq_nil_iff.mpr fun act hmem => (hsilent act hmem).2

end Runs

/-- Where the commands in the queue are after a move. -/
inductive QueueFate (client after : Client) (acts : List ClientAct) : Prop where
  /-- All are where they were. -/
  | stays (h : client.queue <+: after.queue)
  /-- The first one was written on the open connection, or was a subscription that the connection
  has, or the connection broke at it. -/
  | served (command : Command) (h : client.queue = command :: after.queue)
      (hphase : client.link.phase = .opened)
      (hfate : acts = [.wrote client.connections command] ∨
        (∃ channel connection, command = .subscribe channel ∧ client.link = .up connection ∧
          channel ∈ connection.sent) ∨
        after.link.phase = .closed)
  /-- A connection that came up threw them away, and changed nothing else. -/
  | discarded (sent : List String) (inbound : Inbound)
      (hlink : client.link = .up ⟨.fresh, sent, inbound⟩)
      (h : after = { client with queue := [], link := .up ⟨.emptied, sent, inbound⟩ })

theorem Handles.queueFate {client after : Client} {acts : List ClientAct}
    (h : client.Handles after acts) : client.QueueFate after acts := by
  cases h with
  | keeps _ _ hqueue | replays _ _ hqueue => exact .stays (hqueue ▸ List.prefix_refl _)
  | connects => exact .stays (List.prefix_refl _)
  | discards sent inbound _ hlink => exact .discarded sent inbound hlink rfl
  | queues _ _ _ hqueue => exact .stays (hqueue ▸ List.prefix_append _ _)
  | accepts => exact .stays (List.prefix_append _ _)
  | writes command _ hqueue _ hphase => exact .served command hqueue hphase (.inl rfl)
  | skips channel connection _ hqueue hlink hsent _ _ hphase =>
    exact .served _ hqueue hphase (.inr (.inl ⟨channel, connection, rfl, hlink, hsent⟩))
  | breaks command _ _ hqueue _ hphase hafter =>
    exact .served command hqueue hphase (.inr (.inr hafter))

theorem announce_refused {client : Client} (hflag : client.isConnected = false)
    {channel message : String} (hchannel : isChannel channel = true)
    (hmessage : '\n' ∉ message.toList) :
    client.announce channel message =
      (client, [.refused (.connection s!"Not connected to fanout server {client.address}")]) := by
  have hfault : client.announceFault? channel message =
      some (.connection s!"Not connected to fanout server {client.address}") := by
    simp [announceFault?, checkChannel, checkMessage, hchannel, hmessage, hflag]
  unfold Client.announce
  rw [hfault]

end Client

/-- In every run the announcements written on a connection are, in their order, the first ones of
those accepted for it; on the open connection the others wait in the queue. An announcement is
accepted for the connection that is open, and a command is written on the one that is open. Nothing
more is accepted for a connection that is over or written on it. While the flag is down a valid
announcement is refused and nothing changes. A command leaves the queue only when the open
connection serves it, or all at once before a new connection accepts anything; that changes nothing
else, and the subscriptions among them are for channels that are replayed. -/
theorem announcements_not_replayed (address : String) (delay : Duration)
    (moves : List ClientMove) :
    let client := ((Client.new address delay).run moves).1
    let acts := ((Client.new address delay).run moves).2
    (∀ connection, announcedOn connection acts <+: acceptedOn connection acts) ∧
      (client.link.phase = .opened → acceptedOn client.connections acts =
        announcedOn client.connections acts ++ waiting client.queue) ∧
      (∀ move connection channel message,
        .accepted connection channel message ∈ (client.step move).2 →
          connection = client.connections ∧ client.isConnected = true ∧
            client.link.phase = .opened) ∧
      (∀ move connection command, .wrote connection command ∈ (client.step move).2 →
        connection = client.connections ∧ client.link.phase = .opened) ∧
      (∀ connection, client.HasEnded connection → ∀ more,
        acceptedOn connection (client.run more).2 = [] ∧
          announcedOn connection (client.run more).2 = []) ∧
      (client.isConnected = false → ∀ channel message, isChannel channel = true →
        '\n' ∉ message.toList → ∃ text,
          client.announce channel message = (client, [.refused (.connection text)])) ∧
      (∀ move, client.QueueFate (client.step move).1 (client.step move).2) ∧
      ∀ channel, .subscribe channel ∈ client.queue → client.callbacks channel ≠ [] := by
  intro client acts
  have hsound : client.Sound (subscriptionsWritten acts) :=
    (Client.sound_new address delay).run moves
  have haccounts : client.Accounts acts :=
    (Client.accounts_new address delay).run (Client.sound_new address delay) moves
  have hstep : ∀ move, client.Handles (client.step move).1 (client.step move).2 :=
    Client.handles_step hsound
  refine ⟨haccounts.first, ?_, ?_, ?_, ?_, ?_, ?_, ?_⟩
  · intro hopened
    have hcurrent := haccounts.current
    rw [hopened] at hcurrent
    exact hcurrent
  · intro move connection channel message hmem
    exact (hstep move).of_accepted hmem
  · intro move connection command hmem
    exact (hstep move).of_wrote hmem
  · intro connection hended more
    exact hended.run hsound more
  · intro hflag channel message hchannel hmessage
    exact ⟨_, Client.announce_refused hflag hchannel hmessage⟩
  · intro move
    exact (hstep move).queueFate
  · intro channel hqueued hnone
    have hunknown := (Client.callbacks_eq_nil_iff hsound.called channel).mp hnone
    exact hunknown (hsound.queued channel hqueued)

/-- An announcement whose connection ends before it is written is lost, and the next connection
begins with those that it accepts itself. -/
example :
    let acts := ((Client.new "" Client.standardDelay).run
      [.connected, .emptyQueue, .list [], .replay none, .announce "a" "1", .announce "a" "2",
        .serveCommand none, .hangUp, .serveLine, .announce "a" "3", .elapse 5000, .wake,
        .connected, .emptyQueue, .list [], .replay none, .announce "a" "4",
        .serveCommand none]).2
    announcedOn 1 acts = [("a", "1")] ∧ acceptedOn 1 acts = [("a", "1"), ("a", "2")] ∧
      announcedOn 2 acts = [("a", "4")] ∧ acceptedOn 2 acts = [("a", "4")] := by
  decide

end ReplicaSync.Fanout
