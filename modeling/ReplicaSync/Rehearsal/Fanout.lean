import ReplicaSync.Fanout.Client
import ReplicaSync.Rehearsal.Network

/-!
# Rehearsals of a client

A client and a server of its own, on a clock of their own. The server does as it is told and notes
the lines that it gets. After every instruction the client goes on until it waits for time or for
the server; it serves lines before commands, so a hang-up is noticed before anything else is
written.
-/

namespace ReplicaSync

open Fanout

/-- One instruction of a rehearsal of a client. -/
inductive FanoutInstruction where
  | subscribe (channel callback : String)
  | announce (channel message : String)
  /-- The server sends bytes. -/
  | send (bytes : List UInt8)
  /-- The server hangs up; the client may announce before it notices. -/
  | close (announcement : Option (String × String))
  /-- The server accepts connections from now on. -/
  | listen
  | advance (ms : Nat)
  deriving DecidableEq, Repr

/-- The answer to an instruction. -/
inductive FanoutAnswer where
  | nothing
  | call (result : Except AdapterError Unit)
  /-- The server hung up; with the answer to the announcement, if there was one. -/
  | closed (announcement : Option (Except AdapterError Unit))

/-- What an instruction led to. -/
structure FanoutReport where
  answer : FanoutAnswer
  isConnected : Bool
  /-- The lines that the server got. -/
  lines : List String
  /-- The callbacks that were started, with what they were told. -/
  deliveries : List (String × Delivery)

/-- A rehearsal under way. -/
structure FanoutRehearsal where
  client : Client
  network : Network
  isListening : Bool
  /-- The names of the callbacks. -/
  callbacks : List String

namespace FanoutRehearsal

/-- What the client does next without waiting, if anything. -/
def nextMove? (r : FanoutRehearsal) : Option ClientMove :=
  match r.client.link with
  | .connecting => some (if r.isListening then .connected else .unreachable r.network.refusal)
  | .up ⟨.fresh, _, _⟩ => some .emptyQueue
  | .up ⟨.emptied, _, _⟩ => some (.list [])
  | .up ⟨.replaying _, _, _⟩ => some (.replay none)
  | .up ⟨.serving, _, inbound⟩ =>
    match inbound.next with
    | (.wait, _) => if r.client.queue = [] then none else some (.serveCommand none)
    | _ => some .serveLine
  | .sleeping wakeAt => if wakeAt ≤ r.client.now then some .wake else none
  | .gone => none

/-- Lets the client make at most so many moves. -/
def goOnWithin : Nat → FanoutRehearsal → FanoutRehearsal × List ClientAct
  | 0, r => (r, [])
  | moves + 1, r =>
    match r.nextMove? with
    | none => (r, [])
    | some move =>
      let (client, first) := r.client.step move
      let (r, more) := goOnWithin moves { r with client }
      (r, first ++ more)

/-- The bytes that the client has to read. -/
def unreadBytes (client : Client) : Nat :=
  match client.link with
  | .up connection => connection.inbound.bytes.length
  | _ => 0

/-- Lets the client go on until it waits: a move for each byte, command and subscription, and those
of a connection that comes up. -/
def goOn (r : FanoutRehearsal) : FanoutRehearsal × List ClientAct :=
  goOnWithin
    (unreadBytes r.client + r.client.queue.length + r.client.subscriptions.length + 8) r

/-- Lets time pass from one attempt to connect to the next, with at most so many of them. -/
def advanceWithin : Nat → FanoutRehearsal → Nat → FanoutRehearsal × List ClientAct
  | 0, r, _ => (r, [])
  | stops + 1, r, target =>
    let (r, first) := { r with client := r.client.elapse (target - r.client.now) }.goOn
    if r.client.now < target then
      let (r, more) := advanceWithin stops r target
      (r, first ++ more)
    else (r, first)

/-- What an instruction did. -/
structure Effect where
  after : FanoutRehearsal
  answer : FanoutAnswer
  acts : List ClientAct

/-- A call was made: the client goes on. -/
def afterCall (r : FanoutRehearsal) (answer : FanoutAnswer) (acts : List ClientAct) : Effect :=
  let (r, more) := r.goOn
  ⟨r, answer, acts ++ more⟩

/-- The connection is up. -/
def isUp (r : FanoutRehearsal) : Bool :=
  match r.client.link with
  | .up _ => true
  | _ => false

/-- Carries out an instruction. -/
def carryOut (r : FanoutRehearsal) : FanoutInstruction → Effect
  | .subscribe channel callback =>
    let (client, acts) := r.client.subscribeNow channel r.callbacks.length
    { r with client, callbacks := r.callbacks ++ [callback] }.afterCall
      (.call (Client.verdict acts)) acts
  | .announce channel message =>
    let (client, acts) := r.client.announce channel message
    { r with client }.afterCall (.call (Client.verdict acts)) acts
  | .send bytes =>
    { r with client := r.client.onInbound (·.receive bytes) }.afterCall .nothing []
  | .close announcement =>
    if r.isUp then
      let client := r.client.onInbound (·.hangUp)
      match announcement with
      | none => { r with client }.afterCall (.closed none) []
      | some (channel, message) =>
        let (client, acts) := client.announce channel message
        { r with client }.afterCall (.closed (some (Client.verdict acts))) acts
    else ⟨r, .nothing, []⟩
  | .listen => { r with isListening := true }.afterCall .nothing []
  | .advance ms =>
    let (r, acts) := r.advanceWithin (ms + 1) (r.client.now + ms)
    ⟨r, .nothing, acts⟩

/-- Reports an effect. If the connection came up anew, the lines are given in the order of their
texts, since subscriptions are replayed in any order. -/
def Effect.report (effect : Effect) (before : FanoutRehearsal) : FanoutReport :=
  let client := effect.after.client
  let lines := effect.acts.filterMap fun
    | .wrote _ command => some command.text
    | _ => none
  { answer := effect.answer
    isConnected := client.isConnected
    lines :=
      if before.client.connections < client.connections then lines.mergeSort fun a b => a ≤ b
      else lines
    deliveries := effect.acts.filterMap fun
      | .started callback delivery =>
        some (effect.after.callbacks[callback]?.getD "", delivery)
      | _ => none }

/-- The reports that follow, one after each instruction. -/
def run (r : FanoutRehearsal) : List FanoutInstruction → List FanoutReport
  | [] => []
  | instruction :: rest =>
    let effect := r.carryOut instruction
    effect.report r :: effect.after.run rest

/-- A whole rehearsal, with a report on the first attempt to connect in front. Without a network
there is no address for a server, and no rehearsal. -/
def rehearse (network : Network) (address : String) (delay : Duration) (isListening : Bool)
    (instructions : List FanoutInstruction) : Option (List FanoutReport) :=
  match network with
  | .offline => none
  | .loopback =>
    let r : FanoutRehearsal := ⟨.new address delay, network, isListening, []⟩
    let first := r.afterCall .nothing []
    some (first.report r :: first.after.run instructions)

end FanoutRehearsal

end ReplicaSync
