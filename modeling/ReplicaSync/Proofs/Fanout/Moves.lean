import ReplicaSync.Fanout.Client

/-!
# Moves of a client

What holds of every move: what it can show, and what it leaves alone. Main statements: `shows_step`,
`link_onStream`, `subscriptions_step` and `link_step`.
-/

namespace ReplicaSync.Fanout

/-- The move can show the act. Calls are refused or accepted, commands are written by the replay and
from the queue, and callbacks are started by lines from the server. -/
def ClientMove.shows : ClientMove → ClientAct → Bool
  | .subscribe _ _, .refused _ | .enqueue _, .refused _ | .announce _ _, .refused _ => true
  | .announce _ _, .accepted _ _ _ => true
  | .replay _, .wrote _ _ | .serveCommand _, .wrote _ _ => true
  | .serveLine, .started _ _ => true
  | _, .log _ => true
  | _, _ => false

/-- The bytes that arrive with a move. -/
def ClientMove.arrival : ClientMove → List UInt8
  | .receive bytes => bytes
  | _ => []

/-- The bytes that arrive in a run. -/
def arrivals (moves : List ClientMove) : List UInt8 := moves.flatMap ClientMove.arrival

theorem arrivals_cons (move : ClientMove) (rest : List ClientMove) :
    arrivals (move :: rest) = move.arrival ++ arrivals rest :=
  List.flatMap_cons

/-- What the move does to what has arrived. -/
def ClientMove.onStream (inbound : Inbound) : ClientMove → Inbound
  | .receive bytes => inbound.receive bytes
  | .hangUp => inbound.hangUp
  | _ => inbound

theorem onStream_bytes (inbound : Inbound) (move : ClientMove) :
    (move.onStream inbound).bytes = inbound.bytes ++ move.arrival := by
  cases move with
  | receive bytes => rfl
  | _ => exact (List.append_nil _).symm

theorem onStream_ended (inbound : Inbound) (move : ClientMove) :
    (move.onStream inbound).ended = (inbound.ended || .hangUp == move) := by
  cases move with
  | hangUp => exact (Bool.or_true _).symm
  | _ => exact (Bool.or_false _).symm

/-- A callback was started. -/
def ClientAct.isStart : ClientAct → Bool
  | .started _ _ => true
  | _ => false

/-- The callbacks that were started, in their order. -/
def starts (acts : List ClientAct) : List ClientAct := acts.filter ClientAct.isStart

theorem starts_append (a b : List ClientAct) : starts (a ++ b) = starts a ++ starts b :=
  List.filter_append a b

/-- The move can end a connection that has come so far. -/
def ClientMove.mayEnd : ClientMove → Greeting → Bool
  | .serveLine, _ | .shutDown, _ | .serveCommand (some _), _ => true
  | .replay (some _), greeting => greeting ≠ .serving
  | _, _ => false

namespace Client

variable {client : Client}

/-! ### Runs -/

theorem run_cons (client : Client) (move : ClientMove) (rest : List ClientMove) :
    client.run (move :: rest) =
      (((client.step move).1.run rest).1,
        (client.step move).2 ++ ((client.step move).1.run rest).2) := rfl

theorem run_append (client : Client) (a b : List ClientMove) :
    client.run (a ++ b) =
      (((client.run a).1.run b).1, (client.run a).2 ++ ((client.run a).1.run b).2) := by
  induction a generalizing client with
  | nil => rfl
  | cons move rest ih => rw [List.cons_append, run_cons, ih, run_cons, List.append_assoc]

/-! ### One move -/

theorem shows_dispatch (line : List Char) :
    ∀ act ∈ client.dispatch line, ClientMove.serveLine.shows act = true := by
  unfold dispatch
  split
  · exact List.forall_mem_singleton.mpr rfl
  · exact List.forall_mem_map.mpr fun _ _ => rfl

theorem shows_step (client : Client) (move : ClientMove) :
    ∀ act ∈ (client.step move).2, move.shows act = true := by
  have hnone : ∀ act ∈ ([] : List ClientAct), move.shows act = true := List.forall_mem_nil _
  have hone : ∀ {act}, move.shows act = true → ∀ other ∈ [act], move.shows other = true := by
    intro act h other hmem
    rwa [List.mem_singleton.mp hmem]
  cases move with
  | subscribe channel callback =>
    simp only [Client.step, Client.subscribe]
    split
    · exact hone rfl
    · split
      · exact hnone
      · exact hone rfl
  | enqueue channel =>
    simp only [Client.step, Client.enqueue]
    split
    · split <;> exact hone rfl
    · exact hnone
  | announce channel message =>
    simp only [Client.step, Client.announce]
    split <;> exact hone rfl
  | connected | unreachable =>
    simp only [Client.step, Client.connected, Client.unreachable]
    split
    · exact hone rfl
    · exact hnone
  | emptyQueue =>
    simp only [Client.step, Client.emptyQueue]
    split
    · split
      · exact hnone
      · exact hone rfl
    · exact hnone
  | replay fault =>
    simp only [Client.step, Client.replay]
    split
    · cases fault with
      | none | some => exact hone rfl
    · exact hnone
    · exact hnone
  | serveCommand fault =>
    simp only [Client.step, Client.serveCommand]
    split
    · split
      · exact hnone
      · cases fault with
        | none | some => exact hone rfl
    · exact hnone
  | serveLine =>
    simp only [Client.step, Client.serveLine]
    split
    · split
      · exact hnone
      · exact shows_dispatch _
      · exact hone rfl
      · exact hone rfl
    · exact hnone
  | list | receive | hangUp | wake | elapse | shutDown => exact hnone

/-- Only a line from the server starts callbacks. -/
theorem starts_step (client : Client) {move : ClientMove} (h : move ≠ .serveLine) :
    starts (client.step move).2 = [] := by
  refine List.filter_eq_nil_iff.mpr fun act hmem hstart => h ?_
  have hshows := shows_step client move act hmem
  cases act with
  | started callback delivery =>
    cases move with
    | serveLine => rfl
    | _ => cases hshows
  | _ => cases hstart

/-- A connection that the move cannot end stays, and what arrives is kept. -/
theorem link_onStream {greeting : Greeting} {sent : List String} {inbound : Inbound}
    (hup : client.link = .up ⟨greeting, sent, inbound⟩) {move : ClientMove}
    (hstays : move.mayEnd greeting = false) :
    ∃ later sent, (greeting = .serving → later = .serving) ∧
      (client.step move).1.link = .up ⟨later, sent, move.onStream inbound⟩ := by
  cases move with
  | subscribe channel callback =>
    simp only [Client.step, Client.subscribe]
    split
    · exact ⟨_, _, id, hup⟩
    · split <;> exact ⟨_, _, id, hup⟩
  | enqueue channel =>
    simp only [Client.step, Client.enqueue]
    split
    · split <;> exact ⟨_, _, id, hup⟩
    · exact ⟨_, _, id, hup⟩
  | announce channel message =>
    simp only [Client.step, Client.announce]
    split <;> exact ⟨_, _, id, hup⟩
  | connected | unreachable | wake | elapse =>
    simp only [Client.step, Client.connected, Client.unreachable, Client.wake, Client.elapse, hup]
    exact ⟨_, _, id, rfl⟩
  | emptyQueue | list =>
    simp only [Client.step, Client.emptyQueue, Client.list, hup]
    split
    · rename_i heq
      cases heq
      exact ⟨_, _, (fun hserving => by cases hserving), rfl⟩
    · exact ⟨_, _, id, hup⟩
  | replay fault =>
    simp only [Client.step, Client.replay, hup]
    cases greeting with
    | replaying left =>
      cases fault with
      | some reason => cases hstays
      | none =>
        cases left with
        | nil | cons => exact ⟨_, _, (fun hserving => by cases hserving), rfl⟩
    | fresh | emptied | serving => exact ⟨_, _, id, hup⟩
  | serveCommand fault =>
    simp only [Client.step, Client.serveCommand, hup]
    cases fault with
    | some reason => cases hstays
    | none =>
      split
      · split
        · exact ⟨_, _, id, rfl⟩
        · rename_i heq _ _
          cases heq
          exact ⟨_, _, id, rfl⟩
      · exact ⟨_, _, id, hup⟩
  | serveLine | shutDown => cases hstays
  | receive | hangUp =>
    simp only [Client.step, Client.onInbound, hup]
    exact ⟨_, _, id, rfl⟩

theorem subscriptions_step (client : Client) {move : ClientMove}
    (h : ∀ name callback, move ≠ .subscribe name callback) :
    (client.step move).1.subscriptions = client.subscriptions := by
  cases move with
  | subscribe name callback => exact (h name callback rfl).elim
  | enqueue name =>
    simp only [Client.step, Client.enqueue]
    split
    · split <;> rfl
    · rfl
  | announce name message =>
    simp only [Client.step, Client.announce]
    split <;> rfl
  | connected | unreachable | emptyQueue | list | receive | hangUp =>
    simp only [Client.step, Client.connected, Client.unreachable, Client.emptyQueue, Client.list,
      Client.onInbound]
    split <;> rfl
  | replay fault =>
    simp only [Client.step, Client.replay]
    split
    · cases fault <;> rfl
    · rfl
    · rfl
  | serveCommand fault =>
    simp only [Client.step, Client.serveCommand]
    split
    · split
      · rfl
      · cases fault <;> rfl
    · rfl
  | serveLine =>
    simp only [Client.step, Client.serveLine]
    split
    · split <;> rfl
    · rfl
  | wake =>
    simp only [Client.step, Client.wake]
    split
    · split <;> rfl
    · rfl
  | elapse ms =>
    simp only [Client.step, Client.elapse]
    split <;> rfl
  | shutDown => rfl

/-- The connection task stays there unless what it runs on goes away. -/
theorem link_step (h : client.link ≠ .gone) {move : ClientMove} (hmove : move ≠ .shutDown) :
    (client.step move).1.link ≠ .gone := by
  cases move with
  | subscribe channel callback =>
    simp only [Client.step, Client.subscribe]
    split
    · exact h
    · split
      · exact h
      · exact h
  | enqueue channel =>
    simp only [Client.step, Client.enqueue]
    split
    · split
      · exact h
      · exact h
    · exact h
  | announce channel message =>
    simp only [Client.step, Client.announce]
    split
    · exact h
    · exact h
  | connected | unreachable | emptyQueue | list | receive | hangUp =>
    simp only [Client.step, Client.connected, Client.unreachable, Client.emptyQueue, Client.list,
      Client.onInbound]
    split
    · exact fun hgone => by cases hgone
    · exact h
  | replay fault =>
    simp only [Client.step, Client.replay]
    split
    · cases fault with
      | none | some => exact fun hgone => by cases hgone
    · exact fun hgone => by cases hgone
    · exact h
  | serveCommand fault =>
    simp only [Client.step, Client.serveCommand]
    split
    · split
      · exact h
      · cases fault with
        | none | some => exact fun hgone => by cases hgone
    · exact h
  | serveLine =>
    simp only [Client.step, Client.serveLine]
    split
    · split
      · exact h
      · exact fun hgone => by cases hgone
      · exact fun hgone => by cases hgone
      · exact fun hgone => by cases hgone
    · exact h
  | wake =>
    simp only [Client.step, Client.wake]
    split
    · split
      · exact fun hgone => by cases hgone
      · exact h
    · exact h
  | elapse ms =>
    simp only [Client.step, Client.elapse]
    split
    · exact h
    · exact h
  | shutDown => exact (hmove rfl).elim

theorem link_run (h : client.link ≠ .gone) (moves : List ClientMove) (hmoves : .shutDown ∉ moves) :
    (client.run moves).1.link ≠ .gone := by
  induction moves generalizing client with
  | nil => exact h
  | cons move rest ih =>
    rw [List.mem_cons, not_or] at hmoves
    exact ih (link_step h (Ne.symm hmoves.1)) hmoves.2

end Client

end ReplicaSync.Fanout
