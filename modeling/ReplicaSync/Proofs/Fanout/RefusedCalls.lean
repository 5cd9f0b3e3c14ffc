import ReplicaSync.Proofs.Fanout.Announcements

/-!
# Calls that are refused

A call that is refused leaves the client as it was, so a run goes on as if it had not been made.
That nobody takes a command is an answer only after what the connection task ran on has gone away;
from then on nothing is written and no callback is started, whatever is called. Main statement:
`refused_calls_leave_no_trace`.
-/

namespace ReplicaSync.Fanout

/-- The answer of a call that was refused. -/
def ClientAct.refusal? : ClientAct → Option AdapterError
  | .refused error => some error
  | _ => none

/-- A command was written, or a callback was started. -/
def ClientAct.isDeed : ClientAct → Bool
  | .wrote _ _ | .started _ _ => true
  | _ => false

namespace Client

/-- The move is a call that is refused. -/
def refuses (client : Client) (move : ClientMove) : Bool :=
  (client.step move).2.any fun act => act.refusal?.isSome

/-- The moves of a run without the calls that are refused. -/
def withoutRefused (client : Client) : List ClientMove → List ClientMove
  | [] => []
  | move :: rest =>
    if client.refuses move then (client.step move).1.withoutRefused rest
    else move :: (client.step move).1.withoutRefused rest

variable {client : Client}

/-! ### One call -/

theorem checkChannel_error {channel : String} {error : AdapterError}
    (h : checkChannel channel = .error error) : ∃ text, error = .operationFailed text := by
  unfold checkChannel at h
  split at h
  · cases h
  · cases h
    exact ⟨_, rfl⟩

theorem checkMessage_error {message : String} {error : AdapterError}
    (h : checkMessage message = .error error) : ∃ text, error = .operationFailed text := by
  unfold checkMessage at h
  split at h
  · cases h
    exact ⟨_, rfl⟩
  · cases h

/-- An announcement is refused for its text, for want of a connection, or because nobody takes
commands. -/
theorem announceFault?_cases {channel message : String} {error : AdapterError}
    (h : client.announceFault? channel message = some error) :
    (∃ text, error = .operationFailed text) ∨ (∃ text, error = .connection text) ∨
      client.takesCommands = false ∧ error = stopped := by
  unfold announceFault? at h
  split at h
  · rename_i hcheck
    cases h
    exact .inl (checkChannel_error hcheck)
  · rename_i hcheck _
    cases h
    exact .inl (checkMessage_error hcheck)
  · split at h
    · cases h
      exact .inr (.inl ⟨_, rfl⟩)
    · split at h
      · rename_i htakes
        cases h
        exact .inr (.inr ⟨by simpa using htakes, rfl⟩)
      · cases h

/-- An announcement that is refused changes nothing, whatever the reason. -/
theorem announce_unchanged {channel message : String} {error : AdapterError}
    (h : .refused error ∈ (client.announce channel message).2) :
    client.announce channel message = (client, [.refused error]) ∧
      client.announceFault? channel message = some error := by
  unfold Client.announce at h ⊢
  cases hfault : client.announceFault? channel message with
  | none =>
    rw [hfault] at h
    simp at h
  | some other =>
    rw [hfault] at h
    have hother : error = other := by simpa using h
    subst hother
    exact ⟨rfl, rfl⟩

/-- While somebody takes commands, a call that is refused changes nothing. -/
theorem step_refused (htakes : client.takesCommands = true) {move : ClientMove}
    {error : AdapterError} (h : .refused error ∈ (client.step move).2) :
    client.step move = (client, [.refused error]) ∧ ∀ text, error ≠ .notAvailable text := by
  cases move with
  | subscribe channel callback =>
    simp only [Client.step, Client.subscribe] at h ⊢
    split at h
    · rename_i other hcheck
      have hother : error = other := by simpa using h
      subst hother
      obtain ⟨text, rfl⟩ := checkChannel_error hcheck
      exact ⟨rfl, fun _ => by simp⟩
    · split at h
      · simp at h
      · simp [subscribedNote, note] at h
  | enqueue channel =>
    simp only [Client.step, Client.enqueue, htakes, if_true] at h
    split at h
    · simp [subscribedNote, note] at h
    · simp at h
  | announce channel message =>
    obtain ⟨hsame, hfault⟩ := announce_unchanged h
    refine ⟨hsame, ?_⟩
    rcases announceFault?_cases hfault with ⟨text, rfl⟩ | ⟨text, rfl⟩ | ⟨hnobody, _⟩
    · exact fun _ => by simp
    · exact fun _ => by simp
    · rw [htakes] at hnobody
      cases hnobody
  | _ =>
    -- only calls are refused
    cases shows_step client _ _ h

/-! ### When nobody takes commands -/

theorem step_gone (hgone : client.link = .gone) (move : ClientMove) :
    (client.step move).1.link = .gone ∧ ∀ act ∈ (client.step move).2, act.isDeed = false := by
  have hnone : ∀ act ∈ ([] : List ClientAct), act.isDeed = false := List.forall_mem_nil _
  cases move with
  | subscribe channel callback =>
    simp only [Client.step, Client.subscribe]
    split
    · exact ⟨hgone, List.forall_mem_singleton.mpr rfl⟩
    · split
      · exact ⟨hgone, hnone⟩
      · exact ⟨hgone, List.forall_mem_singleton.mpr rfl⟩
  | enqueue channel =>
    simp only [Client.step, Client.enqueue]
    split
    · split <;> exact ⟨hgone, List.forall_mem_singleton.mpr rfl⟩
    · exact ⟨hgone, hnone⟩
  | announce channel message =>
    simp only [Client.step, Client.announce]
    split <;> exact ⟨hgone, List.forall_mem_singleton.mpr rfl⟩
  | shutDown => exact ⟨rfl, hnone⟩
  | elapse ms =>
    simp only [Client.step, Client.elapse, hgone]
    exact ⟨trivial, hnone⟩
  | _ =>
    simp only [Client.step, Client.connected, Client.unreachable, Client.emptyQueue, Client.list,
      Client.replay, Client.serveCommand, Client.serveLine, Client.onInbound, Client.wake, hgone]
    exact ⟨trivial, hnone⟩

theorem run_gone (hgone : client.link = .gone) (moves : List ClientMove) :
    ∀ act ∈ (client.run moves).2, act.isDeed = false := by
  induction moves generalizing client with
  | nil => exact List.forall_mem_nil _
  | cons move rest ih =>
    obtain ⟨hstays, hsilent⟩ := step_gone hgone move
    rw [run_cons, List.forall_mem_append]
    exact ⟨hsilent, ih hstays⟩

theorem gone_run (hgone : client.link = .gone) (moves : List ClientMove) :
    (client.run moves).1.link = .gone := by
  induction moves generalizing client with
  | nil => exact hgone
  | cons move rest ih => exact ih (step_gone hgone move).1

/-- What the connection task runs on does not come back. -/
theorem gone_of_shutDown {moves : List ClientMove} (h : .shutDown ∈ moves) :
    (client.run moves).1.link = .gone := by
  induction moves generalizing client with
  | nil => cases h
  | cons move rest ih =>
    rcases List.mem_cons.mp h with rfl | hrest
    · exact gone_run rfl rest
    · exact ih hrest

/-! ### Runs -/

theorem refuses_iff {move : ClientMove} :
    client.refuses move = true ↔ ∃ error, .refused error ∈ (client.step move).2 := by
  unfold refuses
  rw [List.any_eq_true]
  constructor
  · rintro ⟨act, hmem, hrefusal⟩
    cases act with
    | refused error => exact ⟨error, hmem⟩
    | _ => cases hrefusal
  · rintro ⟨error, hmem⟩
    exact ⟨_, hmem, rfl⟩

theorem takesCommands_iff : client.takesCommands = true ↔ client.link ≠ .gone := decide_eq_true_iff

/-- What a run shows is what it shows without the calls that are refused, and their refusals. -/
theorem run_withoutRefused (htakes : client.takesCommands = true) {moves : List ClientMove}
    (hmoves : .shutDown ∉ moves) (after : List ClientMove) :
    client.run (client.withoutRefused moves ++ after) =
      ((client.run (moves ++ after)).1,
        (client.run moves).2.filter (·.refusal? = none) ++ ((client.run moves).1.run after).2) := by
  induction moves generalizing client with
  | nil => rfl
  | cons move rest ih =>
    rw [List.mem_cons, not_or] at hmoves
    have hstays : (client.step move).1.takesCommands = true :=
      takesCommands_iff.mpr (link_step (takesCommands_iff.mp htakes) (Ne.symm hmoves.1))
    have hrest := ih hstays hmoves.2
    rw [withoutRefused, List.cons_append, run_cons, run_cons, List.filter_append]
    split
    · rename_i hrefuses
      obtain ⟨error, hmem⟩ := refuses_iff.mp hrefuses
      have hsame := (step_refused htakes hmem).1
      rw [hsame] at hrest ⊢
      exact hrest
    · rename_i hheard
      have hall : (client.step move).2.filter (·.refusal? = none) = (client.step move).2 := by
        refine List.filter_eq_self.mpr fun act hmem => decide_eq_true ?_
        cases act with
        | refused error => exact (hheard (refuses_iff.mpr ⟨error, hmem⟩)).elim
        | _ => rfl
      rw [List.cons_append, run_cons, hrest, hall, List.append_assoc]

end Client

/-- Let what the connection task runs on be there. Then a call that is refused leaves the client as
it was, and the answer is never that nobody takes commands. So if such calls are left out of a run,
the client ends up the same, whatever comes behind, and nothing else is shown but that their
refusals are missing; in particular the same commands are written and the same callbacks are
started. An announcement that is refused changes nothing at any time; and once what the connection
task runs on has gone away, nothing is written and no callback is started, whatever is called. -/
theorem refused_calls_leave_no_trace (address : String) (delay : Duration)
    (moves after : List ClientMove) :
    let start := Client.new address delay
    let client := (start.run moves).1
    (.shutDown ∉ moves →
      (∀ move error, .refused error ∈ (client.step move).2 →
        client.step move = (client, [.refused error]) ∧ ∀ text, error ≠ .notAvailable text) ∧
      start.run (start.withoutRefused moves ++ after) =
        ((start.run (moves ++ after)).1,
          (start.run moves).2.filter (·.refusal? = none) ++ (client.run after).2)) ∧
    (∀ channel message error, .refused error ∈ (client.announce channel message).2 →
      client.announce channel message = (client, [.refused error])) ∧
    (.shutDown ∈ moves → ∀ act ∈ (client.run after).2, act.isDeed = false) := by
  intro start client
  have hnew : start.link ≠ .gone := by
    intro hgone
    cases hgone
  refine ⟨fun hmoves => ⟨fun move error hmem => ?_, ?_⟩, fun _ _ _ hmem => ?_, fun hmoves => ?_⟩
  · have htakes : client.takesCommands = true :=
      Client.takesCommands_iff.mpr (Client.link_run hnew moves hmoves)
    exact Client.step_refused htakes hmem
  · exact Client.run_withoutRefused (Client.takesCommands_iff.mpr hnew) hmoves after
  · exact (Client.announce_unchanged hmem).1
  · exact Client.run_gone (Client.gone_of_shutDown hmoves) after

/-- Two calls are refused in between, for an exclamation mark and for want of a connection. -/
theorem refused_calls_leave_no_trace_offline :
    let start := Client.new "h:1" Client.standardDelay
    let moves : List ClientMove :=
      [.subscribe "a!b" 0, .announce "ab01" "1", .subscribe "ab01" 1, .enqueue "ab01"]
    start.withoutRefused moves = [.subscribe "ab01" 1, .enqueue "ab01"] ∧
      (start.run [.subscribe "ab01" 1, .enqueue "ab01"]).1 = (start.run moves).1 := by
  intro start moves
  have hwithout : start.withoutRefused moves = [.subscribe "ab01" 1, .enqueue "ab01"] := by
    decide +kernel
  have hsame := ((refused_calls_leave_no_trace "h:1" Client.standardDelay moves []).1
    (by decide)).2
  rw [hwithout, List.append_nil, List.append_nil] at hsame
  exact ⟨hwithout, congrArg (·.1) hsame⟩

/-- What the connection task runs on is gone while the client is there. A call to subscribe is
refused because nobody takes commands, but its callback is registered; so the same call is not
refused when it is made again. -/
theorem refused_after_shutDown :
    let client := (Client.new "h:1" Client.standardDelay).shutDown
    let called := client.subscribeNow "ab01" 0
    Client.verdict called.2 = .error (.notAvailable "Fanout connection task stopped") ∧
      called.1.subscriptions ≠ client.subscriptions ∧
      Client.verdict (called.1.subscribeNow "ab01" 0).2 = .ok () := by
  decide +kernel

end ReplicaSync.Fanout
