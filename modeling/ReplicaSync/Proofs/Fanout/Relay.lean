import Mathlib.Data.List.TakeWhile
import ReplicaSync.Proofs.Fanout.Announcements
import ReplicaSync.Proofs.Fanout.ServerLines

/-!
# Announcements at the other end

A server reads the line of an announcement and passes the message on as a line of its own. Bytes
reach a client in pieces of any size, between whatever else it does, and are kept until their line
is complete; each line of the server is served once, in its turn. Carriage returns at the end of a
line do not count, and the client that announces does not refuse them. So the callbacks of the
channel are started once each, with the message as far as its last character that is no carriage
return. Main statement: `announcement_relayed`.
-/

namespace ReplicaSync.Fanout

/-! ### The server -/

/-- What a server passes on for a line, if it is an announcement. -/
def relayed? (line : List UInt8) : Option Delivery :=
  match Command.ofBytes? line with
  | some (.announce channel message) => some ⟨channel, message⟩
  | _ => none

/-- The lines, without their ends, that a server writes for what it reads on a connection. -/
def relay (bytes : List UInt8) : List (List Char) :=
  ((bytes.splitOn Inbound.lineBreak).filterMap relayed?).map fun delivery => delivery.text.toList

theorem relayed?_nil : relayed? [] = none := by
  have hdecode : Text.Utf8.decode? [] = some "" := Text.Utf8.decode?_encode []
  rw [relayed?, Command.ofBytes?, hdecode]
  rfl

theorem relay_announce {channel message : String}
    (h : (Command.announce channel message).IsPlain) :
    relay (Command.announce channel message).bytes =
      [(Delivery.mk channel message).text.toList] := by
  have hplain : ∀ command ∈ [Command.announce channel message], command.IsPlain := by
    simpa using h
  have hsplit := splitOn_bytes hplain
  have hread : relayed? (Text.Utf8.encode (Command.announce channel message).text.toList) =
      some ⟨channel, message⟩ := by
    rw [relayed?, Command.ofBytes?_encode h]
  rw [List.flatMap_singleton] at hsplit
  rw [relay, hsplit]
  simp [hread, relayed?_nil]

/-! ### The next line -/

namespace Inbound

theorem next_lineBytes {line : List Char} (h : '\n' ∉ line) (rest : List UInt8) :
    next ⟨lineBytes line ++ rest, false⟩ = (.line (stripped line), ⟨rest, false⟩) := by
  have hline : ∀ b ∈ Text.Utf8.encode line, decide (b ≠ lineBreak) = true := by
    intro b hmem
    exact decide_eq_true fun heq => lineBreak_notMem_encode h (heq ▸ hmem)
  have hbytes : lineBytes line ++ rest = Text.Utf8.encode line ++ lineBreak :: rest := by
    rw [lineBytes, List.append_assoc]
    rfl
  have hdrop : (lineBytes line ++ rest).dropWhile (· ≠ lineBreak) = lineBreak :: rest := by
    rw [hbytes, List.dropWhile_append_of_pos hline]
    simp
  have htake : (lineBytes line ++ rest).takeWhile (· ≠ lineBreak) = Text.Utf8.encode line := by
    rw [hbytes, List.takeWhile_append_of_pos hline]
    simp
  have hread : readBytes (Text.Utf8.encode line) true = .line (stripped line) := by
    simp only [readBytes, Text.Utf8.decode?_encode, String.toList_ofList, Bool.true_and,
      decide_eq_true_eq, stripped]
  simp only [next, hdrop, htake, hread]

theorem next_wait {unread : List UInt8} (h : lineBreak ∉ unread) :
    next ⟨unread, false⟩ = (.wait, ⟨unread, false⟩) := by
  have hall : unread.dropWhile (· ≠ lineBreak) = [] := by
    rw [List.dropWhile_eq_nil_iff]
    intro b hmem
    exact decide_eq_true fun heq => h (heq ▸ hmem)
  simp only [next, hall]
  rfl

/-- When a line break has arrived, the first line is complete. -/
theorem unread_cut {unread more begun : List UInt8} {lines : List (List Char)}
    (hlines : ∀ line ∈ lines, '\n' ∉ line) (hbegun : lineBreak ∉ begun)
    (hstream : unread ++ more = lines.flatMap lineBytes ++ begun) (hbreak : lineBreak ∈ unread) :
    ∃ line left rest, lines = line :: left ∧ unread = lineBytes line ++ rest ∧
      rest ++ more = left.flatMap lineBytes ++ begun := by
  cases lines with
  | nil =>
    have hmem : lineBreak ∈ begun := by
      rw [List.flatMap_nil, List.nil_append] at hstream
      rw [← hstream]
      exact List.mem_append_left _ hbreak
    exact (hbegun hmem).elim
  | cons line left =>
    rw [List.flatMap_cons, List.append_assoc, List.append_eq_append_iff] at hstream
    rcases hstream with ⟨short, hline, hmore⟩ | ⟨rest, hunread, hrest⟩
    · -- what has arrived is no longer than the line, so it ends at its line break
      cases hshort : short.getLast? with
      | none =>
        have hnil : short = [] := List.getLast?_eq_none_iff.mp hshort
        subst hnil
        refine ⟨line, left, [], rfl, by simpa using hline.symm, by simpa using hmore⟩
      | some last =>
        obtain ⟨init, rfl⟩ := List.getLast?_eq_some_iff.mp hshort
        rw [← List.append_assoc] at hline
        have hencode := (List.append_inj' hline rfl).1
        have hmem : lineBreak ∈ Text.Utf8.encode line := by
          rw [hencode]
          exact List.mem_append_left _ hbreak
        exact (lineBreak_notMem_encode (hlines line List.mem_cons_self) hmem).elim
    · exact ⟨line, left, rest, rfl, hunread, hrest.symm⟩

end Inbound

/-! ### One move on a connection that is up -/

/-- The connection that is up outlives the move. -/
def ClientMove.keepsConnection : ClientMove → Bool
  | .serveCommand (some _) | .hangUp | .shutDown => false
  | _ => true

/-- The move registers a callback of this channel. -/
def ClientMove.registersOn (channel : String) : ClientMove → Bool
  | .subscribe name _ => name = channel
  | _ => false

/-- A callback was started for a message on this channel. -/
def ClientAct.isStartOn (channel : String) : ClientAct → Bool
  | .started _ delivery => delivery.channel = channel
  | _ => false

/-- The starts for messages on a channel, in their order. -/
def startsOn (channel : String) (acts : List ClientAct) : List ClientAct :=
  acts.filter (·.isStartOn channel)

/-- The starts that a line is worth to the callbacks of a channel. -/
def startsOf (callbacks : List Nat) (channel : String) (line : List Char) : List ClientAct :=
  match Delivery.ofLine? line with
  | some delivery =>
    if delivery.channel = channel then callbacks.map (.started · delivery) else []
  | none => []

namespace Client

/-- A connection is up and serves, and this has arrived and was not read. -/
def Serves (client : Client) (unread : List UInt8) : Prop :=
  ∃ sent, client.link = .up ⟨.serving, sent, ⟨unread, false⟩⟩

/-- In a run that keeps the connection and registers no callback of the channel, these lines reach
the client, and nothing but the beginning of another one behind them. -/
structure Hears (client : Client) (channel : String) (moves : List ClientMove)
    (lines : List (List Char)) : Prop where
  keeps : ∀ move ∈ moves, move.keepsConnection = true
  registers : ∀ move ∈ moves, move.registersOn channel = false
  stream : ∃ unread begun, client.Serves unread ∧ Inbound.lineBreak ∉ begun ∧
    unread ++ arrivals moves = lines.flatMap lineBytes ++ begun

section Moves

variable {client : Client} {unread : List UInt8} {channel : String}

theorem startsOn_append (a b : List ClientAct) :
    startsOn channel (a ++ b) = startsOn channel a ++ startsOn channel b :=
  List.filter_append a b

theorem startsOn_of_starts {acts : List ClientAct} (h : starts acts = []) :
    startsOn channel acts = [] := by
  refine List.filter_eq_nil_iff.mpr fun act hmem hstart => ?_
  have hnone := List.filter_eq_nil_iff.mp h act hmem
  cases act with
  | started callback delivery => exact hnone rfl
  | _ => cases hstart

theorem startsOn_dispatch (line : List Char) :
    startsOn channel (client.dispatch line) = startsOf (client.callbacks channel) channel line := by
  unfold dispatch startsOf
  cases Delivery.ofLine? line with
  | none => rfl
  | some delivery =>
    simp only [startsOn, List.filter_map]
    by_cases hchannel : delivery.channel = channel
    · subst hchannel
      have hall : ∀ callback ∈ client.callbacks delivery.channel,
          ((·.isStartOn delivery.channel) ∘ (ClientAct.started · delivery)) callback = true := by
        simp [ClientAct.isStartOn]
      rw [if_pos rfl, List.filter_eq_self.mpr hall]
    · have hnone : ∀ callback ∈ client.callbacks delivery.channel,
          ¬ ((·.isStartOn channel) ∘ (ClientAct.started · delivery)) callback = true := by
        simp [ClientAct.isStartOn, hchannel]
      rw [if_neg hchannel, List.filter_eq_nil_iff.mpr hnone, List.map_nil]

theorem lookup_register {name : String} (h : name ≠ channel) (callback : Nat)
    (subscriptions : List (String × List Nat)) :
    (register name callback subscriptions).lookup channel = subscriptions.lookup channel := by
  have hother : (channel == name) = false := beq_eq_false_iff_ne.mpr h.symm
  induction subscriptions with
  | nil => rw [register, List.lookup_cons, hother]
  | cons entry rest ih =>
    unfold register
    split
    · rename_i hentry
      subst hentry
      rw [List.lookup_cons, List.lookup_cons, hother]
    · rw [List.lookup_cons, List.lookup_cons, ih]

theorem callbacks_step {move : ClientMove} (h : move.registersOn channel = false) :
    (client.step move).1.callbacks channel = client.callbacks channel := by
  cases move with
  | subscribe name callback =>
    have hname : name ≠ channel := of_decide_eq_false h
    simp only [Client.step, Client.subscribe]
    split
    · rfl
    · split
      · exact congrArg (·.getD []) (lookup_register hname callback client.subscriptions)
      · exact congrArg (·.getD []) (lookup_register hname callback client.subscriptions)
  | _ => rw [callbacks, subscriptions_step client (by simp), callbacks]

theorem mayEnd_of_keepsConnection {move : ClientMove} (h : move.keepsConnection = true)
    (hmove : move ≠ .serveLine) : move.mayEnd .serving = false := by
  cases move with
  | serveCommand fault =>
    cases fault with
    | none => rfl
    | some reason => cases h
  | replay fault => cases fault with
    | none | some => rfl
  | serveLine => exact (hmove rfl).elim
  | shutDown => cases h
  | _ => rfl

theorem onStream_of_keepsConnection {move : ClientMove} (h : move.keepsConnection = true)
    (unread : List UInt8) : move.onStream ⟨unread, false⟩ = ⟨unread ++ move.arrival, false⟩ := by
  cases move with
  | receive bytes => rfl
  | hangUp => cases h
  | _ => exact congrArg (Inbound.mk · false) (List.append_nil unread).symm

/-- Between two reads the bytes that arrive are kept, and no callback is started. -/
theorem Serves.step (h : client.Serves unread) {move : ClientMove}
    (hkeeps : move.keepsConnection = true) (hmove : move ≠ .serveLine) :
    (client.step move).1.Serves (unread ++ move.arrival) ∧
      startsOn channel (client.step move).2 = [] := by
  obtain ⟨sent, hup⟩ := h
  obtain ⟨later, sent, hserving, hkept⟩ :=
    link_onStream hup (mayEnd_of_keepsConnection hkeeps hmove)
  rw [hserving rfl, onStream_of_keepsConnection hkeeps] at hkept
  exact ⟨⟨sent, hkept⟩, startsOn_of_starts (starts_step client hmove)⟩

theorem Serves.step_line {line : List Char} {rest : List UInt8}
    (h : client.Serves (lineBytes line ++ rest)) (hline : '\n' ∉ line) :
    (client.step .serveLine).1.Serves rest ∧
      startsOn channel (client.step .serveLine).2 =
        startsOf (client.callbacks channel) channel line := by
  obtain ⟨sent, hup⟩ := h
  have hnext := Inbound.next_lineBytes hline rest
  simp only [Client.step, Client.serveLine, hup, hnext]
  refine ⟨⟨sent, rfl⟩, ?_⟩
  rw [startsOn_dispatch, startsOf, Inbound.ofLine?_stripped, startsOf]

theorem Serves.step_wait (h : client.Serves unread) (hbreak : Inbound.lineBreak ∉ unread) :
    client.step .serveLine = (client, []) := by
  obtain ⟨sent, hup⟩ := h
  simp only [Client.step, Client.serveLine, hup, Inbound.next_wait hbreak]

end Moves

/-! ### Runs -/

section Runs

variable {client : Client} {unread begun : List UInt8} {channel : String}
  {lines : List (List Char)}

/-- Whatever the client does in between, the lines that have arrived are served in their order, and
the rest stays. -/
theorem Serves.run (h : client.Serves unread) (hlines : ∀ line ∈ lines, '\n' ∉ line)
    (hbegun : Inbound.lineBreak ∉ begun) {moves : List ClientMove}
    (hkeeps : ∀ move ∈ moves, move.keepsConnection = true)
    (hregisters : ∀ move ∈ moves, move.registersOn channel = false)
    (hstream : unread ++ arrivals moves = lines.flatMap lineBytes ++ begun) :
    ∃ served left, lines = served ++ left ∧
      (client.run moves).1.Serves (left.flatMap lineBytes ++ begun) ∧
      (client.run moves).1.callbacks channel = client.callbacks channel ∧
      startsOn channel (client.run moves).2 =
        served.flatMap (startsOf (client.callbacks channel) channel) := by
  induction moves generalizing client unread lines with
  | nil =>
    refine ⟨[], lines, rfl, ?_, rfl, rfl⟩
    rw [← hstream]
    exact (List.append_nil unread).symm ▸ h
  | cons move rest ih =>
    rw [List.forall_mem_cons] at hkeeps hregisters
    have hcallbacks : (client.step move).1.callbacks channel = client.callbacks channel :=
      callbacks_step hregisters.1
    by_cases hmove : move = .serveLine
    · subst hmove
      by_cases hbreak : Inbound.lineBreak ∈ unread
      · obtain ⟨line, left, more, rfl, rfl, hleft⟩ :=
          Inbound.unread_cut hlines hbegun hstream hbreak
        rw [List.forall_mem_cons] at hlines
        obtain ⟨hserves, hstarts⟩ := h.step_line hlines.1
        obtain ⟨served, left, rfl, hend, hsame, hrest⟩ :=
          ih hserves hlines.2 hkeeps.2 hregisters.2 hleft
        refine ⟨line :: served, left, rfl, hend, hsame.trans hcallbacks, ?_⟩
        rw [run_cons, startsOn_append, hstarts, hrest, hcallbacks, List.flatMap_cons]
      · have hwait := h.step_wait hbreak
        have hrun : client.run (.serveLine :: rest) = client.run rest := by
          rw [run_cons, hwait]
          rfl
        rw [hrun]
        exact ih h hlines hkeeps.2 hregisters.2 hstream
    · obtain ⟨hserves, hstarts⟩ := h.step hkeeps.1 hmove
      have hmore : unread ++ move.arrival ++ arrivals rest = lines.flatMap lineBytes ++ begun := by
        rw [List.append_assoc, ← hstream, arrivals, arrivals, List.flatMap_cons]
      obtain ⟨served, left, hboth, hend, hsame, hrest⟩ :=
        ih hserves hlines hkeeps.2 hregisters.2 hmore
      refine ⟨served, left, hboth, hend, hsame.trans hcallbacks, ?_⟩
      rw [run_cons, startsOn_append, hstarts, hrest, hcallbacks, List.nil_append]

/-- A client that keeps reading serves every line that has arrived. -/
theorem Serves.run_lines (h : client.Serves (lines.flatMap lineBytes ++ begun))
    (hlines : ∀ line ∈ lines, '\n' ∉ line) (hbegun : Inbound.lineBreak ∉ begun) {reads : Nat}
    (hreads : lines.length ≤ reads) :
    startsOn channel (client.run (List.replicate reads .serveLine)).2 =
      lines.flatMap (startsOf (client.callbacks channel) channel) := by
  induction reads generalizing client lines with
  | zero =>
    have hnone : lines = [] := List.eq_nil_of_length_eq_zero (by omega)
    subst hnone
    rfl
  | succ reads ih =>
    rw [List.replicate_succ, run_cons, startsOn_append]
    cases lines with
    | nil =>
      rw [h.step_wait hbegun]
      exact ih h hlines (Nat.zero_le _)
    | cons line left =>
      rw [List.forall_mem_cons] at hlines
      rw [List.flatMap_cons, List.append_assoc] at h
      have hcallbacks : (client.step .serveLine).1.callbacks channel = client.callbacks channel :=
        callbacks_step rfl
      obtain ⟨hserves, hstarts⟩ := h.step_line hlines.1
      have hrest := ih hserves hlines.2 (by simpa using hreads)
      rw [hstarts, hrest, hcallbacks, List.flatMap_cons]

/-- The lines that reach the client are served in their order, once each. -/
theorem Hears.served {moves : List ClientMove} (h : client.Hears channel moves lines)
    (hlines : ∀ line ∈ lines, '\n' ∉ line) :
    startsOn channel (client.run (moves ++ List.replicate lines.length .serveLine)).2 =
      lines.flatMap (startsOf (client.callbacks channel) channel) := by
  obtain ⟨unread, begun, hserves, hbegun, hstream⟩ := h.stream
  obtain ⟨served, left, rfl, hend, hsame, hfirst⟩ :=
    hserves.run hlines hbegun h.keeps h.registers hstream
  have hleft : ∀ line ∈ left, '\n' ∉ line := fun line hmem =>
    hlines line (List.mem_append_right _ hmem)
  have hreads : left.length ≤ (served ++ left).length := by
    rw [List.length_append]
    exact Nat.le_add_left _ _
  have hlast : startsOn channel ((client.run moves).1.run
      (List.replicate (served ++ left).length .serveLine)).2 =
        left.flatMap (startsOf ((client.run moves).1.callbacks channel) channel) :=
    hend.run_lines hleft hbegun hreads
  rw [run_append, startsOn_append, hfirst, hlast, hsame, List.flatMap_append]

end Runs

end Client

/-! ### From one client to another -/

/-- What the other side gets: once for each callback, the message as far as its last character that
is no carriage return. -/
theorem startsOf_text {channel : String} (h : isChannel channel = true) (message : String)
    (callbacks : List Nat) :
    startsOf callbacks channel (Delivery.mk channel message).text.toList =
      callbacks.map (.started ·
        ⟨channel, String.ofList (Delivery.trimReturns message.toList)⟩) := by
  rw [startsOf, Delivery.ofLine?_text h]
  exact if_pos rfl

theorem newline_notMem_relay {channel message : String}
    (h : (Command.announce channel message).IsPlain) :
    '\n' ∉ (Delivery.mk channel message).text.toList := by
  have hchannel := blank_notMem h.1 Text.isBlank_newline
  rw [Delivery.toList_text]
  simp [hchannel, h.2]

/-- A message that some client announces on a channel is read by a server and passed on. Let this
be one line among those that reach a client, in whatever pieces and between whatever else the client
does. Then the callbacks of the channel are started for it once each and in their order, between the
starts for the lines before it and those for the lines behind it, with exactly this channel and with
the message without the carriage returns at its end. -/
theorem announcement_relayed (sender receiver : Client) (channel message : String)
    (haccepted : Client.verdict (sender.announce channel message).2 = .ok ())
    (before after : List (List Char)) (hothers : ∀ line ∈ before ++ after, '\n' ∉ line)
    (moves : List ClientMove)
    (hhears : receiver.Hears channel moves
      (before ++ relay (Command.announce channel message).bytes ++ after)) :
    let reads := List.replicate (before.length + 1 + after.length) .serveLine
    let starts := startsOf (receiver.callbacks channel) channel
    startsOn channel (receiver.run (moves ++ reads)).2 =
      before.flatMap starts ++
        (receiver.callbacks channel).map (.started ·
          ⟨channel, String.ofList (Delivery.trimReturns message.toList)⟩) ++
        after.flatMap starts := by
  intro reads starts
  have hplain := Client.isPlain_of_announceFault? (Client.announceFault?_of_verdict haccepted)
  rw [relay_announce hplain] at hhears
  have hlines : ∀ line ∈ before ++ [(Delivery.mk channel message).text.toList] ++ after,
      '\n' ∉ line := by
    intro line hmem
    rcases List.mem_append.mp hmem with hfirst | hlast
    · rcases List.mem_append.mp hfirst with hbefore | hrelayed
      · exact hothers line (List.mem_append_left _ hbefore)
      · rw [List.mem_singleton.mp hrelayed]
        exact newline_notMem_relay hplain
    · exact hothers line (List.mem_append_right _ hlast)
  have hserved := hhears.served hlines
  rw [List.length_append, List.length_append, List.length_singleton] at hserved
  rw [hserved, List.flatMap_append, List.flatMap_append, List.flatMap_singleton,
    startsOf_text hplain.1]

/-- A client whose connection serves, with one callback on a channel. -/
def Client.listening (channel : String) : Client :=
  ((Client.new "" Client.standardDelay).run
    [.subscribe channel 0, .enqueue channel, .connected, .emptyQueue, .list [channel],
      .replay none, .replay none]).1

theorem Client.listening_hears {moves : List ClientMove} {lines : List (List Char)}
    (hkeeps : ∀ move ∈ moves, move.keepsConnection = true)
    (hregisters : ∀ move ∈ moves, move.registersOn "ab01" = false)
    (harrived : arrivals moves = lines.flatMap lineBytes) :
    (Client.listening "ab01").Hears "ab01" moves lines := by
  refine ⟨hkeeps, hregisters, [], [], ⟨["ab01"], rfl⟩, List.not_mem_nil, ?_⟩
  rw [List.nil_append, List.append_nil]
  exact harrived

/-- The line arrives in two pieces, the first of which ends within the message. -/
theorem announcement_relayed_in_pieces :
    startsOn "ab01" ((Client.listening "ab01").run
      [.receive [97, 98, 48, 49, 33, 49], .serveLine, .receive [33, 10], .serveLine]).2 =
        [.started 0 ⟨"ab01", "1!"⟩] := by
  have haccepted : Client.verdict ((Client.listening "ab01").announce "ab01" "1!").2 = .ok () := by
    decide +kernel
  have hplain := Client.isPlain_of_announceFault? (Client.announceFault?_of_verdict haccepted)
  refine announcement_relayed (Client.listening "ab01") (Client.listening "ab01") "ab01" "1!"
    haccepted [] [] (List.forall_mem_nil _)
    [.receive [97, 98, 48, 49, 33, 49], .serveLine, .receive [33, 10]] ?_
  refine Client.listening_hears (by decide) (by decide) ?_
  rw [relay_announce hplain]
  decide +kernel

/-- A carriage return at the end of a message is not refused, and is lost at the other end. -/
theorem return_lost_in_relay :
    Client.verdict ((Client.listening "ab01").announce "ab01" "1\r").2 = .ok () ∧
      startsOn "ab01" ((Client.listening "ab01").run
          [.receive ((relay (Command.announce "ab01" "1\r").bytes).flatMap lineBytes),
            .serveLine]).2 ≠
        ((Client.listening "ab01").callbacks "ab01").map (.started · ⟨"ab01", "1\r"⟩) := by
  have haccepted : Client.verdict ((Client.listening "ab01").announce "ab01" "1\r").2 = .ok () := by
    decide +kernel
  have hplain := Client.isPlain_of_announceFault? (Client.announceFault?_of_verdict haccepted)
  have hline : ∀ line ∈ [(Delivery.mk "ab01" "1\r").text.toList], '\n' ∉ line := by
    decide +kernel
  have hhears : (Client.listening "ab01").Hears "ab01"
      [.receive ([(Delivery.mk "ab01" "1\r").text.toList].flatMap lineBytes)]
      [(Delivery.mk "ab01" "1\r").text.toList] :=
    Client.listening_hears (List.forall_mem_singleton.mpr rfl) (List.forall_mem_singleton.mpr rfl)
      (List.append_nil _)
  have hserved : startsOn "ab01" ((Client.listening "ab01").run
      [.receive ([(Delivery.mk "ab01" "1\r").text.toList].flatMap lineBytes), .serveLine]).2 =
        [(Delivery.mk "ab01" "1\r").text.toList].flatMap
          (startsOf ((Client.listening "ab01").callbacks "ab01") "ab01") := hhears.served hline
  refine ⟨haccepted, ?_⟩
  rw [relay_announce hplain, hserved, List.flatMap_singleton, startsOf_text hplain.1]
  decide +kernel

end ReplicaSync.Fanout
