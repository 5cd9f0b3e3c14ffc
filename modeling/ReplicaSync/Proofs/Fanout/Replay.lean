import Mathlib.Data.List.Nodup
import ReplicaSync.Proofs.Fanout.Moves

/-!
# Subscriptions on every connection

A subscription reaches a connection by the replay or through the queue. The replay lists the
channels after the queue was emptied, and a channel that is registered later has its command in
the queue, or its subscriber still has to queue it. What a connection has written it does not
write again. Main statement: `subscription_replay`.
-/

namespace ReplicaSync.Fanout

/-! ### Subscriptions that were written -/

/-- The connection and the channel, if a subscription was written. -/
def ClientAct.subscription? : ClientAct → Option (Nat × String)
  | .wrote connection (.subscribe channel) => some (connection, channel)
  | _ => none

/-- The subscriptions that were written, in their order. -/
def subscriptionsWritten (acts : List ClientAct) : List (Nat × String) :=
  acts.filterMap ClientAct.subscription?

theorem subscriptionsWritten_append (a b : List ClientAct) :
    subscriptionsWritten (a ++ b) = subscriptionsWritten a ++ subscriptionsWritten b :=
  List.filterMap_append

/-! ### Registered channels -/

namespace Client

/-- The channels that were subscribed to. -/
def channels (client : Client) : List String := client.subscriptions.map (·.1)

theorem channels_register (channel : String) (callback : Nat)
    (subscriptions : List (String × List Nat)) :
    (register channel callback subscriptions).map (·.1) =
      if channel ∈ subscriptions.map (·.1) then subscriptions.map (·.1)
      else subscriptions.map (·.1) ++ [channel] := by
  induction subscriptions with
  | nil => rfl
  | cons entry rest ih =>
    unfold register
    by_cases hentry : entry.1 = channel
    · simp [hentry]
    · simp only [if_neg hentry, List.map_cons, List.mem_cons, Ne.symm hentry, false_or, ih]
      split <;> rfl

theorem register_ne_nil (channel : String) (callback : Nat)
    {subscriptions : List (String × List Nat)} (h : ∀ entry ∈ subscriptions, entry.2 ≠ []) :
    ∀ entry ∈ register channel callback subscriptions, entry.2 ≠ [] := by
  induction subscriptions with
  | nil => simp [register]
  | cons first rest ih =>
    rw [List.forall_mem_cons] at h
    unfold register
    split
    · rw [List.forall_mem_cons]
      exact ⟨by simp, h.2⟩
    · rw [List.forall_mem_cons]
      exact ⟨h.1, ih h.2⟩

theorem callbacks_eq_nil_iff {client : Client}
    (h : ∀ entry ∈ client.subscriptions, entry.2 ≠ []) (channel : String) :
    client.callbacks channel = [] ↔ channel ∉ client.channels := by
  unfold callbacks channels
  generalize client.subscriptions = subscriptions at h
  induction subscriptions with
  | nil => simp
  | cons entry rest ih =>
    rw [List.forall_mem_cons] at h
    obtain ⟨name, callbacks⟩ := entry
    by_cases hname : channel = name
    · subst hname
      simpa using h.1
    · have hbeq : (channel == name) = false := beq_eq_false_iff_ne.mpr hname
      have hlookup : ((name, callbacks) :: rest).lookup channel = rest.lookup channel := by
        rw [List.lookup_cons, hbeq]
      rw [hlookup, ih h.2]
      simp [hname]

/-! ### The invariant -/

/-- Every channel was written, is still to be replayed, has its command in the queue, or has a
subscriber that still has to queue it. -/
def Covered (client : Client) (sent left : List String) : Prop :=
  ∀ channel ∈ client.channels, channel ∈ sent ∨ channel ∈ left ∨
    .subscribe channel ∈ client.queue ∨ channel ∈ client.unsent

/-- What holds of a connection that has come so far. -/
def GreetingSound (client : Client) (sent : List String) : Greeting → Prop
  | .fresh | .emptied => client.isConnected = false ∧ sent = []
  | .replaying left =>
    client.isConnected = false ∧ left.Nodup ∧
      (∀ channel ∈ left, channel ∉ sent ∧ channel ∈ client.channels) ∧ client.Covered sent left
  | .serving => client.Covered sent []

/-- What holds of the link: a connection knows what was written on it, and without one the flag is
down. -/
def LinkSound (client : Client) (written : List (Nat × String)) : Link → Prop
  | .connecting | .sleeping _ => client.isConnected = false
  | .up connection =>
    (∀ channel, (client.connections, channel) ∈ written ↔ channel ∈ connection.sent) ∧
      client.GreetingSound connection.sent connection.greeting
  | .gone => True

/-- What holds of a client at any time, given the subscriptions that it wrote. -/
structure Sound (client : Client) (written : List (Nat × String)) : Prop where
  nodup : client.channels.Nodup
  called : ∀ entry ∈ client.subscriptions, entry.2 ≠ []
  queued : ∀ channel, .subscribe channel ∈ client.queue → channel ∈ client.channels
  unsent : ∀ channel ∈ client.unsent, channel ∈ client.channels
  once : written.Nodup
  past : ∀ connection channel, (connection, channel) ∈ written → connection ≤ client.connections
  link : client.LinkSound written client.link

/-- What a step leaves is sound, and it writes only what is registered, on the connection that is
up. -/
structure Keeps (client : Client) (written : List (Nat × String))
    (result : Client × List ClientAct) : Prop where
  sound : result.1.Sound (written ++ subscriptionsWritten result.2)
  writes : ∀ connection channel, (connection, channel) ∈ subscriptionsWritten result.2 →
    connection = client.connections ∧ channel ∈ client.channels

theorem sound_new (address : String) (delay : Duration) : (new address delay).Sound [] where
  nodup := List.nodup_nil
  called := List.forall_mem_nil _
  queued := fun _ hmem => nomatch hmem
  unsent := fun _ hmem => nomatch hmem
  once := List.nodup_nil
  past := fun _ _ hmem => nomatch hmem
  link := rfl

variable {client : Client} {written : List (Nat × String)}

/-! ### Calls -/

/-- What was covered stays covered if commands only get from subscribers into the queue. -/
theorem Covered.queue_on {other : Client} {sent left : List String}
    (h : client.Covered sent left)
    (hqueue : ∀ channel, .subscribe channel ∈ client.queue → .subscribe channel ∈ other.queue)
    (hunsent : ∀ channel ∈ client.unsent,
      .subscribe channel ∈ other.queue ∨ channel ∈ other.unsent) :
    ∀ channel ∈ client.channels, channel ∈ sent ∨ channel ∈ left ∨
      .subscribe channel ∈ other.queue ∨ channel ∈ other.unsent := by
  intro channel hmem
  rcases h channel hmem with hsent | hleft | hcommand | hwaits
  · exact .inl hsent
  · exact .inr (.inl hleft)
  · exact .inr (.inr (.inl (hqueue channel hcommand)))
  · exact .inr (.inr (hunsent channel hwaits))

/-- A call changes neither the flag nor the link, and leaves every channel covered. -/
theorem LinkSound.call {other : Client} {link : Link} (h : client.LinkSound written link)
    (hflag : other.isConnected = client.isConnected)
    (hconnections : other.connections = client.connections)
    (hchannels : ∀ channel ∈ client.channels, channel ∈ other.channels)
    (hcovered : ∀ sent left, client.Covered sent left → other.Covered sent left) :
    other.LinkSound written link := by
  cases link with
  | connecting | sleeping => exact hflag.trans h
  | gone => trivial
  | up connection =>
    obtain ⟨hsent, hgreeting⟩ := h
    refine ⟨fun channel => ?_, ?_⟩
    · rw [hconnections]
      exact hsent channel
    · generalize connection.greeting = greeting at hgreeting
      cases greeting with
      | fresh | emptied => exact ⟨hflag.trans hgreeting.1, hgreeting.2⟩
      | replaying left =>
        obtain ⟨hdown, hnodup, hleft, hcover⟩ := hgreeting
        refine ⟨hflag.trans hdown, hnodup, fun channel hmem => ?_, hcovered _ _ hcover⟩
        exact ⟨(hleft channel hmem).1, hchannels channel (hleft channel hmem).2⟩
      | serving => exact hcovered _ _ hgreeting

theorem Sound.silent {before : Client} {acts : List ClientAct} (h : client.Sound written)
    (hacts : subscriptionsWritten acts = []) : before.Keeps written (client, acts) := by
  constructor
  · rw [hacts, List.append_nil]
    exact h
  · intro connection channel hmem
    rw [hacts] at hmem
    cases hmem

theorem Sound.newChannel (h : client.Sound written) {channel : String}
    {subscriptions : List (String × List Nat)}
    (hkeys : subscriptions.map (·.1) = client.channels ++ [channel])
    (hcalled : ∀ entry ∈ subscriptions, entry.2 ≠ []) (hfresh : channel ∉ client.channels) :
    Sound { client with subscriptions, unsent := client.unsent ++ [channel] } written := by
  have hgrown : ∀ name ∈ client.channels, name ∈ subscriptions.map (·.1) := by
    intro name hmem
    rw [hkeys]
    exact List.mem_append_left _ hmem
  constructor
  · show (subscriptions.map (·.1)).Nodup
    rw [hkeys, ← List.concat_eq_append, List.nodup_concat]
    exact ⟨hfresh, h.nodup⟩
  · exact hcalled
  · exact fun name hmem => hgrown name (h.queued name hmem)
  · intro name hmem
    rcases List.mem_append.mp hmem with hold | hnew
    · exact hgrown name (h.unsent name hold)
    · show name ∈ subscriptions.map (·.1)
      rw [hkeys]
      exact List.mem_append_right _ hnew
  · exact h.once
  · exact h.past
  · refine h.link.call rfl rfl hgrown fun sent left hcovered name hmem => ?_
    change name ∈ subscriptions.map (·.1) at hmem
    rw [hkeys] at hmem
    rcases List.mem_append.mp hmem with hold | hnew
    · refine hcovered.queue_on ?_ ?_ name hold
      · exact fun _ hcommand => hcommand
      · exact fun _ hwaits => .inr (List.mem_append_left _ hwaits)
    · exact .inr (.inr (.inr (List.mem_append_right _ hnew)))

theorem Sound.oldChannel (h : client.Sound written) {subscriptions : List (String × List Nat)}
    (hkeys : subscriptions.map (·.1) = client.channels)
    (hcalled : ∀ entry ∈ subscriptions, entry.2 ≠ []) :
    Sound { client with subscriptions } written := by
  have hsame : ∀ name, name ∈ subscriptions.map (·.1) ↔ name ∈ client.channels := by
    intro name
    rw [hkeys]
  constructor
  · show (subscriptions.map (·.1)).Nodup
    rw [hkeys]
    exact h.nodup
  · exact hcalled
  · exact fun name hmem => (hsame name).mpr (h.queued name hmem)
  · exact fun name hmem => (hsame name).mpr (h.unsent name hmem)
  · exact h.once
  · exact h.past
  · exact h.link.call rfl rfl (fun name hmem => (hsame name).mpr hmem)
      fun sent left hcovered name hmem => hcovered name ((hsame name).mp hmem)

theorem Sound.subscribe (h : client.Sound written) (channel : String) (callback : Nat) :
    client.Keeps written (client.subscribe channel callback) := by
  have hkeys : (register channel callback client.subscriptions).map (·.1) =
      if channel ∈ client.channels then client.channels else client.channels ++ [channel] :=
    channels_register channel callback client.subscriptions
  have hcalled := register_ne_nil channel callback h.called
  have hregistered := callbacks_eq_nil_iff h.called channel
  unfold Client.subscribe
  split
  · exact h.silent rfl
  · by_cases hnew : client.callbacks channel = []
    · have hfresh := hregistered.mp hnew
      rw [if_neg hfresh] at hkeys
      rw [if_pos hnew]
      exact (h.newChannel hkeys hcalled hfresh).silent rfl
    · have hknown := not_not.mp (mt hregistered.mpr hnew)
      rw [if_pos hknown] at hkeys
      rw [if_neg hnew]
      exact (h.oldChannel hkeys hcalled).silent rfl

/-- A subscriber queues its command, or finds that nobody takes it. -/
theorem Sound.enqueue (h : client.Sound written) (channel : String) :
    client.Keeps written (client.enqueue channel) := by
  unfold Client.enqueue
  by_cases hunsent : client.unsent.contains channel = true
  · have hchannel := h.unsent channel (List.contains_iff_mem.mp hunsent)
    have herased : ∀ name ∈ client.unsent.erase channel, name ∈ client.channels :=
      fun name hmem => h.unsent name (List.mem_of_mem_erase hmem)
    rw [if_pos hunsent]
    by_cases htakes : client.takesCommands = true
    · rw [if_pos htakes]
      refine Sound.silent ⟨h.nodup, h.called, ?_, herased, h.once, h.past, ?_⟩ rfl
      · intro name hmem
        rcases List.mem_append.mp hmem with hold | hnew
        · exact h.queued name hold
        · cases List.mem_singleton.mp hnew
          exact hchannel
      · refine h.link.call rfl rfl (fun _ hmem => hmem) fun sent left hcovered =>
          hcovered.queue_on (fun _ hcommand => List.mem_append_left _ hcommand) ?_
        intro name hwaits
        by_cases hname : name = channel
        · subst hname
          exact .inl (List.mem_append_right _ (List.mem_singleton.mpr rfl))
        · exact .inr ((List.mem_erase_of_ne hname).mpr hwaits)
    · have hgone : client.link = .gone := by
        simpa [takesCommands] using htakes
      rw [if_neg htakes]
      refine Sound.silent ⟨h.nodup, h.called, h.queued, herased, h.once, h.past, ?_⟩ rfl
      show LinkSound _ written client.link
      rw [hgone]
      trivial
  · rw [if_neg hunsent]
    exact h.silent rfl

theorem Sound.announce (h : client.Sound written) (channel message : String) :
    client.Keeps written (client.announce channel message) := by
  unfold Client.announce
  split
  · exact h.silent rfl
  · refine Sound.silent ⟨h.nodup, h.called, ?_, h.unsent, h.once, h.past, ?_⟩ rfl
    · intro name hmem
      rcases List.mem_append.mp hmem with hold | hnew
      · exact h.queued name hold
      · cases List.mem_singleton.mp hnew
    · exact h.link.call rfl rfl (fun _ hmem => hmem) fun sent left hcovered =>
        hcovered.queue_on (fun _ hcommand => List.mem_append_left _ hcommand)
          fun _ hwaits => .inr hwaits

/-! ### The connection -/

/-- The connection task changes the flag and the link, and takes commands from the queue. -/
theorem Sound.relink (h : client.Sound written) {queue : List Command} {isConnected : Bool}
    {link : Link} (hqueue : ∀ command ∈ queue, command ∈ client.queue)
    (hlink : LinkSound { client with queue, isConnected, link } written link) :
    Sound { client with queue, isConnected, link } written :=
  ⟨h.nodup, h.called, fun channel hmem => h.queued channel (hqueue _ hmem), h.unsent, h.once,
    h.past, hlink⟩

theorem Sound.rest (h : client.Sound written) : client.rest.Sound written :=
  h.relink (fun _ hmem => hmem) rfl

theorem Sound.connected (h : client.Sound written) :
    client.Keeps written client.connected := by
  unfold Client.connected
  split
  · rename_i hlink
    have hdown : client.isConnected = false := by
      have hsound := h.link
      rw [hlink] at hsound
      exact hsound
    -- the number of the new connection is greater than every number written on so far
    refine Sound.silent ⟨h.nodup, h.called, h.queued, h.unsent, h.once, ?_, ?_, hdown, rfl⟩ rfl
    · intro connection channel hmem
      exact Nat.le_succ_of_le (h.past _ _ hmem)
    · intro channel
      constructor
      · intro hmem
        exact (Nat.not_succ_le_self _ (h.past _ _ hmem)).elim
      · intro hmem
        cases hmem
  · exact h.silent rfl

theorem Sound.unreachable (h : client.Sound written) (reason : String) :
    client.Keeps written (client.unreachable reason) := by
  unfold Client.unreachable
  split
  · exact h.rest.silent rfl
  · exact h.silent rfl

theorem Sound.broke (h : client.Sound written) (reason : String) :
    client.Keeps written (client.broke reason) :=
  h.rest.silent rfl

theorem Sound.up (h : client.Sound written) {connection : Connection}
    (hlink : client.link = .up connection) :
    (∀ channel, (client.connections, channel) ∈ written ↔ channel ∈ connection.sent) ∧
      client.GreetingSound connection.sent connection.greeting := by
  have hsound := h.link
  rw [hlink] at hsound
  exact hsound

theorem Sound.emptyQueue (h : client.Sound written) :
    client.Keeps written client.emptyQueue := by
  unfold Client.emptyQueue
  split
  · rename_i sent inbound hlink
    obtain ⟨hsent, hgreeting⟩ := h.up hlink
    refine Sound.silent (h.relink (fun _ hmem => nomatch hmem) ⟨hsent, hgreeting⟩) ?_
    by_cases hstale : announcements client.queue = 0
    · simp only [if_pos hstale]
      rfl
    · simp only [if_neg hstale]
      rfl
  · exact h.silent rfl

theorem Sound.list (h : client.Sound written) (order : List String) :
    (client.list order).Sound written := by
  unfold Client.list
  split
  · rename_i sent inbound hlink
    obtain ⟨hsent, hdown, hnone⟩ := h.up hlink
    -- an order that is not one of the channels is not taken
    have hperm : (if order.isPerm client.channels then order else client.channels).Perm
        client.channels := by
      split
      · rename_i horder
        exact List.isPerm_iff.mp horder
      · exact .refl _
    refine h.relink (fun _ hmem => hmem) ⟨hsent, hdown, hperm.nodup_iff.mpr h.nodup, ?_, ?_⟩
    · intro channel hmem
      refine ⟨?_, hperm.mem_iff.mp hmem⟩
      change sent = [] at hnone
      rw [hnone]
      exact List.not_mem_nil
    · exact fun channel hmem => .inr (.inl (hperm.mem_iff.mpr hmem))
  · exact h

theorem Sound.wrote (h : client.Sound written) {greeting next : Greeting} {sent : List String}
    {inbound : Inbound} {channel : String} {queue : List Command}
    (hlink : client.link = .up ⟨greeting, sent, inbound⟩) (hfresh : channel ∉ sent)
    (hchannel : channel ∈ client.channels) (hqueue : ∀ command ∈ queue, command ∈ client.queue)
    (hnext : GreetingSound
      { client with queue, link := .up ⟨next, channel :: sent, inbound⟩ } (channel :: sent) next) :
    client.Keeps written ({ client with queue, link := .up ⟨next, channel :: sent, inbound⟩ },
      [.wrote client.connections (.subscribe channel)]) := by
  obtain ⟨hsent, _⟩ := h.up hlink
  have hnew : (client.connections, channel) ∉ written := fun hmem =>
    hfresh ((hsent channel).mp hmem)
  refine ⟨⟨h.nodup, h.called, fun name hmem => h.queued name (hqueue _ hmem), h.unsent, ?_, ?_,
    ?_, hnext⟩, ?_⟩
  · show (written ++ [(client.connections, channel)]).Nodup
    rw [← List.concat_eq_append, List.nodup_concat]
    exact ⟨hnew, h.once⟩
  · intro connection name hmem
    rcases List.mem_append.mp hmem with hold | hlast
    · exact h.past connection name hold
    · cases List.mem_singleton.mp hlast
      exact Nat.le_refl _
  · intro name
    have hboth : (client.connections, name) ∈ written ++ [(client.connections, channel)] ↔
        name ∈ channel :: sent := by
      rw [List.mem_append, hsent name, List.mem_singleton, List.mem_cons, or_comm]
      simp
    exact hboth
  · intro connection name hmem
    cases List.mem_singleton.mp hmem
    exact ⟨rfl, hchannel⟩

theorem Sound.replay (h : client.Sound written) (fault : Option String) :
    client.Keeps written (client.replay fault) := by
  unfold Client.replay
  split
  · rename_i channel left sent inbound hlink
    obtain ⟨_, hdown, hnodup, hleft, hcovered⟩ := h.up hlink
    rw [List.nodup_cons] at hnodup
    cases fault with
    | some reason => exact h.broke reason
    | none =>
      have hchannel := hleft channel List.mem_cons_self
      refine h.wrote hlink hchannel.1 hchannel.2 (fun _ hmem => hmem)
        ⟨hdown, hnodup.2, fun name hmem => ⟨?_, (hleft name (List.mem_cons_of_mem _ hmem)).2⟩, ?_⟩
      · rintro (_ | ⟨_, hsent⟩)
        · exact hnodup.1 hmem
        · exact (hleft name (List.mem_cons_of_mem _ hmem)).1 hsent
      · intro name hmem
        rcases hcovered name hmem with hsent | hwaits | hrest
        · exact .inl (List.mem_cons_of_mem _ hsent)
        · rcases List.mem_cons.mp hwaits with rfl | hlater
          · exact .inl List.mem_cons_self
          · exact .inr (.inl hlater)
        · exact .inr (.inr hrest)
  · rename_i sent inbound hlink
    obtain ⟨hsent, _, _, _, hcovered⟩ := h.up hlink
    exact Sound.silent (h.relink (fun _ hmem => hmem) ⟨hsent, hcovered⟩) rfl
  · exact h.silent rfl

/-- A subscription that the connection has is not written again, and needs no command. -/
theorem Covered.skip {command : Command} {queue : List Command} {sent : List String}
    (h : client.Covered sent []) (hqueue : client.queue = command :: queue)
    (hsent : ∀ channel, command = .subscribe channel → channel ∈ sent) :
    Covered { client with queue } sent [] := by
  intro channel hmem
  rcases h channel hmem with hold | hnone | hcommand | hwaits
  · exact .inl hold
  · cases hnone
  · rw [hqueue] at hcommand
    rcases List.mem_cons.mp hcommand with hfirst | hrest
    · exact .inl (hsent channel hfirst.symm)
    · exact .inr (.inr (.inl hrest))
  · exact .inr (.inr (.inr hwaits))

theorem Sound.serveCommand (h : client.Sound written) (fault : Option String) :
    client.Keeps written (client.serveCommand fault) := by
  unfold Client.serveCommand
  split
  · rename_i sent inbound command queue hlink hqueue
    obtain ⟨hsent, hcovered⟩ := h.up hlink
    change client.Covered sent [] at hcovered
    have hrest : ∀ other ∈ queue, other ∈ client.queue := by
      intro other hmem
      rw [hqueue]
      exact List.mem_cons_of_mem _ hmem
    by_cases hrepeated : isRepeated sent command = true
    · rw [if_pos hrepeated]
      have hskip : Covered { client with queue } sent [] := by
        refine hcovered.skip hqueue fun channel hcommand => ?_
        rw [hcommand] at hrepeated
        exact List.contains_iff_mem.mp hrepeated
      have hnow : LinkSound { client with queue } written client.link := by
        rw [hlink]
        exact ⟨hsent, hskip⟩
      exact (h.relink hrest hnow).silent rfl
    · rw [if_neg hrepeated]
      cases fault with
      | some reason =>
        -- the command is lost with the connection, and the next one replays its channel
        exact Sound.silent (h.relink hrest rfl) rfl
      | none =>
        cases command with
        | announce channel message =>
          have hskip : Covered { client with queue } sent [] :=
            hcovered.skip hqueue fun _ hcommand => nomatch hcommand
          exact Sound.silent (h.relink hrest ⟨hsent, hskip⟩) rfl
        | subscribe channel =>
          have hfresh : channel ∉ sent := fun hmem =>
            hrepeated (List.contains_iff_mem.mpr hmem)
          have hchannel : channel ∈ client.channels := by
            refine h.queued channel ?_
            rw [hqueue]
            exact List.mem_cons_self
          refine h.wrote hlink hfresh hchannel hrest ?_
          have hmore : client.Covered (channel :: sent) [] := fun name hmem =>
            (hcovered name hmem).imp_left (List.mem_cons_of_mem _)
          refine hmore.skip hqueue fun name hcommand => ?_
          cases hcommand
          exact List.mem_cons_self
  · exact h.silent rfl

theorem subscriptionsWritten_dispatch (client : Client) (line : List Char) :
    subscriptionsWritten (client.dispatch line) = [] := by
  unfold Client.dispatch
  split
  · rfl
  · unfold subscriptionsWritten
    rw [List.filterMap_map, List.filterMap_eq_nil_iff]
    intro callback _
    rfl

theorem Sound.serveLine (h : client.Sound written) :
    client.Keeps written client.serveLine := by
  unfold Client.serveLine
  split
  · rename_i sent inbound hlink
    have hup := h.up hlink
    split
    · exact h.silent rfl
    · exact Sound.silent (h.relink (fun _ hmem => hmem) hup) (subscriptionsWritten_dispatch _ _)
    · exact h.rest.silent rfl
    · exact h.broke _
  · exact h.silent rfl

theorem Sound.onInbound (h : client.Sound written) (change : Inbound → Inbound) :
    (client.onInbound change).Sound written := by
  unfold Client.onInbound
  split
  · rename_i connection hlink
    have hup := h.up hlink
    exact h.relink (fun _ hmem => hmem) hup
  · exact h

theorem Sound.wake (h : client.Sound written) : client.wake.Sound written := by
  unfold Client.wake
  split
  · rename_i wakeAt hlink
    have hdown := h.link
    rw [hlink] at hdown
    split
    · exact h.relink (fun _ hmem => hmem) hdown
    · exact h
  · exact h

theorem Sound.elapse (h : client.Sound written) (ms : Nat) : (client.elapse ms).Sound written := by
  unfold Client.elapse
  split
  · exact ⟨h.nodup, h.called, h.queued, h.unsent, h.once, h.past, h.link⟩
  · exact ⟨h.nodup, h.called, h.queued, h.unsent, h.once, h.past, h.link⟩

theorem Sound.shutDown (h : client.Sound written) : client.shutDown.Sound written :=
  h.relink (fun _ hmem => hmem) trivial

/-! ### Runs -/

theorem Sound.step (h : client.Sound written) (move : ClientMove) :
    client.Keeps written (client.step move) := by
  cases move with
  | subscribe channel callback => exact h.subscribe channel callback
  | enqueue channel => exact h.enqueue channel
  | announce channel message => exact h.announce channel message
  | connected => exact h.connected
  | unreachable reason => exact h.unreachable reason
  | emptyQueue => exact h.emptyQueue
  | list order => exact (h.list order).silent rfl
  | replay fault => exact h.replay fault
  | serveCommand fault => exact h.serveCommand fault
  | serveLine => exact h.serveLine
  | receive bytes => exact Sound.silent (h.onInbound (·.receive bytes)) rfl
  | hangUp => exact Sound.silent (h.onInbound (·.hangUp)) rfl
  | wake => exact h.wake.silent rfl
  | elapse ms => exact (h.elapse ms).silent rfl
  | shutDown => exact h.shutDown.silent rfl

theorem Sound.run (h : client.Sound written) (moves : List ClientMove) :
    (client.run moves).1.Sound (written ++ subscriptionsWritten (client.run moves).2) := by
  induction moves generalizing client written with
  | nil =>
    show client.Sound (written ++ [])
    rw [List.append_nil]
    exact h
  | cons move rest ih =>
    have hrest := ih (h.step move).sound
    rw [List.append_assoc, ← subscriptionsWritten_append] at hrest
    exact hrest

/-- While the flag is up and the connection task is there, nothing is missed. -/
theorem Sound.covered (h : client.Sound written) (hlink : client.link ≠ .gone)
    (hflag : client.isConnected = true) {channel : String} (hchannel : channel ∈ client.channels) :
    (client.connections, channel) ∈ written ∨ .subscribe channel ∈ client.queue ∨
      channel ∈ client.unsent := by
  have hup : ¬ client.isConnected = false := by
    rw [hflag]
    exact Bool.noConfusion
  have hsound := h.link
  generalize client.link = link at hlink hsound
  cases link with
  | connecting | sleeping => exact (hup hsound).elim
  | gone => exact (hlink rfl).elim
  | up connection =>
    obtain ⟨hsent, hgreeting⟩ := hsound
    generalize connection.greeting = greeting at hgreeting
    cases greeting with
    | fresh | emptied | replaying => exact (hup hgreeting.1).elim
    | serving =>
      rcases hgreeting channel hchannel with hmem | hnone | hwaits
      · exact .inl ((hsent channel).mpr hmem)
      · cases hnone
      · exact .inr hwaits

end Client

/-- In every run no connection is sent a subscription twice, and what is written next goes to the
connection that is up and is for a channel with a callback. Unless what the connection task runs on
goes away: whenever the flag is up, every channel with a callback was written on the connection
that is up, or has its command in the queue, or its first subscriber has not queued the command
yet. -/
theorem subscription_replay (address : String) (delay : Duration) (moves : List ClientMove) :
    let client := ((Client.new address delay).run moves).1
    let written := subscriptionsWritten ((Client.new address delay).run moves).2
    written.Nodup ∧
      (∀ move connection channel,
        (connection, channel) ∈ subscriptionsWritten (client.step move).2 →
          connection = client.connections ∧ client.callbacks channel ≠ []) ∧
      (.shutDown ∉ moves → client.isConnected = true →
        ∀ channel, client.callbacks channel ≠ [] →
          (client.connections, channel) ∈ written ∨ .subscribe channel ∈ client.queue ∨
            channel ∈ client.unsent) := by
  intro client written
  have hsound : client.Sound written := (Client.sound_new address delay).run moves
  have hcalled : ∀ channel, client.callbacks channel ≠ [] ↔ channel ∈ client.channels := by
    intro channel
    rw [ne_eq, Client.callbacks_eq_nil_iff hsound.called, not_not]
  refine ⟨hsound.once, ?_, ?_⟩
  · intro move connection channel hmem
    obtain ⟨hcurrent, hchannel⟩ := (hsound.step move).writes connection channel hmem
    exact ⟨hcurrent, (hcalled channel).mpr hchannel⟩
  · intro hmoves hflag channel hchannel
    have hnew : (Client.new address delay).link ≠ .gone := by
      intro hgone
      cases hgone
    have hlink : client.link ≠ .gone := Client.link_run hnew moves hmoves
    exact hsound.covered hlink hflag ((hcalled channel).mp hchannel)

/-- A command that is lost with its connection reaches the next one by the replay. -/
example :
    subscriptionsWritten ((Client.new "" Client.standardDelay).run
      [.subscribe "a" 0, .enqueue "a", .connected, .emptyQueue, .list ["a"], .replay none,
        .replay none, .subscribe "b" 1, .enqueue "b", .serveCommand (some "broken"),
        .elapse 5000, .wake, .connected, .emptyQueue, .list ["b", "a"], .replay none,
        .replay none, .replay none]).2 = [(1, "a"), (2, "b"), (2, "a")] := by
  rfl

end ReplicaSync.Fanout
