import ReplicaSync.Fanout.Inbound
import ReplicaSync.Log.Entry
import ReplicaSync.Time.Duration

/-!
# The client of a fanout server

Calls and the connection meet in three places: the subscriptions, the queue of commands, and the
flag that says whether the connection is up. A call to subscribe first registers its callback and
then queues a command, if it was the first callback of the channel. The connection throws the
queue away when it comes up, replays all subscriptions, raises the flag, and from then on serves
the queue and the server's lines. When it goes down, the flag goes down before anything else
happens, so an announcement is accepted for the connection that is up or not at all.
-/

namespace ReplicaSync.Fanout

/-! ### The state -/

/-- How far a connection is. -/
inductive Greeting where
  /-- The queue has not been emptied. -/
  | fresh
  /-- The subscriptions have not been listed. -/
  | emptied
  /-- These channels are still to be replayed. -/
  | replaying (left : List String)
  | serving
  deriving DecidableEq, Repr

/-- A connection to the server. -/
structure Connection where
  greeting : Greeting
  /-- The channels for which this connection has a subscription. -/
  sent : List String
  inbound : Inbound
  deriving DecidableEq, Repr

/-- What the connection task is doing. -/
inductive Link where
  | connecting
  | up (connection : Connection)
  | sleeping (wakeAt : Nat)
  /-- What the task ran on is gone. -/
  | gone
  deriving DecidableEq, Repr

/-- A client. Callbacks are known by number. -/
structure Client where
  address : String
  delay : Duration
  /-- The channels in the order of their first subscription, with their callbacks. -/
  subscriptions : List (String × List Nat)
  /-- Channels whose first subscriber has not queued its command yet. -/
  unsent : List String
  queue : List Command
  isConnected : Bool
  /-- The number of connections that came up so far. -/
  connections : Nat
  link : Link
  now : Nat
  deriving DecidableEq, Repr

/-- What can be seen of a step. -/
inductive ClientAct where
  /-- A command was written to the connection with this number. -/
  | wrote (connection : Nat) (command : Command)
  /-- An announcement was accepted while the connection with this number was up. -/
  | accepted (connection : Nat) (channel message : String)
  | started (callback : Nat) (delivery : Delivery)
  | refused (error : AdapterError)
  | log (record : LogRecord)
  deriving DecidableEq

namespace Client

def new (address : String) (delay : Duration) : Client :=
  { address, delay
    subscriptions := []
    unsent := []
    queue := []
    isConnected := false
    connections := 0
    link := .connecting
    now := 0 }

/-- The pause before the next attempt to connect, unless another is chosen. -/
def standardDelay : Duration := .ofMillis 5000

def note (level : LogLevel) (message : String) (fields : List (String × String)) : ClientAct :=
  .log (.make level "bridge_desktop::fanout" none message fields)

/-- The record of a channel that was subscribed to. -/
def subscribedNote (channel : String) : ClientAct :=
  note .debug "Subscribed to fanout channel" [("channel", channel)]

/-! ### Calls -/

/-- The callbacks of a channel, in the order in which they were registered. -/
def callbacks (client : Client) (channel : String) : List Nat :=
  (client.subscriptions.lookup channel).getD []

/-- Registers a callback after those that the channel has. -/
def register (channel : String) (callback : Nat) :
    List (String × List Nat) → List (String × List Nat)
  | [] => [(channel, [callback])]
  | entry :: rest =>
    if entry.1 = channel then (entry.1, entry.2 ++ [callback]) :: rest
    else entry :: register channel callback rest

/-- The first half of a call to subscribe: the callback is registered. A channel that had one
before needs no command. -/
def subscribe (client : Client) (channel : String) (callback : Nat) : Client × List ClientAct :=
  match checkChannel channel with
  | .error error => (client, [.refused error])
  | .ok () =>
    let subscriptions := register channel callback client.subscriptions
    if client.callbacks channel = [] then
      ({ client with subscriptions, unsent := client.unsent ++ [channel] }, [])
    else ({ client with subscriptions }, [subscribedNote channel])

/-- The task that takes commands is there. -/
def takesCommands (client : Client) : Bool := client.link ≠ .gone

def stopped : AdapterError := .notAvailable "Fanout connection task stopped"

/-- The second half of a call to subscribe: the command is queued. -/
def enqueue (client : Client) (channel : String) : Client × List ClientAct :=
  if client.unsent.contains channel then
    let unsent := client.unsent.erase channel
    if client.takesCommands then
      ({ client with unsent, queue := client.queue ++ [.subscribe channel] },
        [subscribedNote channel])
    else ({ client with unsent }, [.refused stopped])
  else (client, [])

/-- A whole call to subscribe, with nothing between its halves. -/
def subscribeNow (client : Client) (channel : String) (callback : Nat) :
    Client × List ClientAct :=
  let (client, first) := client.subscribe channel callback
  let (client, second) := client.enqueue channel
  (client, first ++ second)

/-- Why an announcement is refused, if it is. -/
def announceFault? (client : Client) (channel message : String) : Option AdapterError :=
  match checkChannel channel, checkMessage message with
  | .error error, _ => some error
  | _, .error error => some error
  | .ok (), .ok () =>
    if !client.isConnected then
      some (.connection s!"Not connected to fanout server {client.address}")
    else if !client.takesCommands then some stopped
    else none

/-- A call to announce. -/
def announce (client : Client) (channel message : String) : Client × List ClientAct :=
  match client.announceFault? channel message with
  | some error => (client, [.refused error])
  | none =>
    ({ client with queue := client.queue ++ [.announce channel message] },
      [.accepted client.connections channel message])

/-- The answer to a call that did this. -/
def verdict (acts : List ClientAct) : Except AdapterError Unit :=
  acts.foldl (fun answer act =>
    match act with
    | .refused error => .error error
    | _ => answer) (.ok ())

/-- What was logged. -/
def records (acts : List ClientAct) : List LogRecord :=
  acts.filterMap fun
    | .log record => some record
    | _ => none

/-! ### The connection -/

/-- The connection came up. -/
def connected (client : Client) : Client × List ClientAct :=
  match client.link with
  | .connecting =>
    ({ client with connections := client.connections + 1, link := .up ⟨.fresh, [], .empty⟩ },
      [note .info "Connected to fanout server" [("address", client.address)]])
  | _ => (client, [])

/-- Sleeps before the next attempt. -/
def rest (client : Client) : Client :=
  { client with isConnected := false, link := .sleeping (client.now + client.delay.sleepTicks) }

/-- The attempt to connect failed. -/
def unreachable (client : Client) (reason : String) : Client × List ClientAct :=
  match client.link with
  | .connecting =>
    (client.rest,
      [note .warn "Cannot connect to fanout server"
        [("address", client.address), ("error", reason)]])
  | _ => (client, [])

/-- The connection broke. -/
def broke (client : Client) (reason : String) : Client × List ClientAct :=
  (client.rest,
    [note .warn "Fanout connection failed" [("address", client.address), ("error", reason)]])

/-- The number of announcements among commands. -/
def announcements (commands : List Command) : Nat :=
  commands.countP fun
    | .announce _ _ => true
    | .subscribe _ => false

/-- Throws away the commands left over from an earlier connection. -/
def emptyQueue (client : Client) : Client × List ClientAct :=
  match client.link with
  | .up { greeting := .fresh, sent, inbound } =>
    let stale := announcements client.queue
    ({ client with queue := [], link := .up ⟨.emptied, sent, inbound⟩ },
      if stale = 0 then []
      else [note .debug "Dropped announcements queued before reconnect"
        [("discarded", toString stale)]])
  | _ => (client, [])

/-- Lists the subscriptions, in any order. -/
def list (client : Client) (order : List String) : Client :=
  match client.link with
  | .up { greeting := .emptied, sent, inbound } =>
    let channels := client.subscriptions.map (·.1)
    let left := if order.isPerm channels then order else channels
    { client with link := .up ⟨.replaying left, sent, inbound⟩ }
  | _ => client

/-- Writes the next subscription, or breaks with the reason given; after the last one the
connection is open for calls. -/
def replay (client : Client) (fault : Option String) : Client × List ClientAct :=
  match client.link with
  | .up { greeting := .replaying (channel :: left), sent, inbound } =>
    match fault with
    | some reason => client.broke reason
    | none =>
      ({ client with link := .up ⟨.replaying left, channel :: sent, inbound⟩ },
        [.wrote client.connections (.subscribe channel)])
  | .up { greeting := .replaying [], sent, inbound } =>
    ({ client with isConnected := true, link := .up ⟨.serving, sent, inbound⟩ }, [])
  | _ => (client, [])

/-- The connection has written a subscription for the channel of this command. -/
def isRepeated (sent : List String) : Command → Bool
  | .subscribe channel => sent.contains channel
  | .announce _ _ => false

/-- The channels with a subscription once this command is written. -/
def sentWith (sent : List String) : Command → List String
  | .subscribe channel => channel :: sent
  | .announce _ _ => sent

/-- Serves the next command of the queue, or breaks when writing it. A subscription that the
connection has is not written again. -/
def serveCommand (client : Client) (fault : Option String) : Client × List ClientAct :=
  match client.link, client.queue with
  | .up { greeting := .serving, sent, inbound }, command :: queue =>
    if isRepeated sent command then ({ client with queue }, [])
    else match fault with
      | some reason => { client with queue }.broke reason
      | none =>
        ({ client with queue, link := .up ⟨.serving, sentWith sent command, inbound⟩ },
          [.wrote client.connections command])
  | _, _ => (client, [])

/-- Starts the callbacks of a line, in the order in which they were registered. -/
def dispatch (client : Client) (line : List Char) : List ClientAct :=
  match Delivery.ofLine? line with
  | none => [note .debug "Ignoring malformed fanout line" [("line", String.ofList line)]]
  | some delivery =>
    (client.callbacks delivery.channel).map fun callback => .started callback delivery

/-- Serves the next line from the server. -/
def serveLine (client : Client) : Client × List ClientAct :=
  match client.link with
  | .up { greeting := .serving, sent, inbound } =>
    match inbound.next with
    | (.wait, _) => (client, [])
    | (.line line, inbound) =>
      ({ client with link := .up ⟨.serving, sent, inbound⟩ }, client.dispatch line)
    | (.done, _) =>
      (client.rest,
        [note .warn "Fanout server closed the connection" [("address", client.address)]])
    | (.garbled, _) => client.broke "stream did not contain valid UTF-8"
  | _ => (client, [])

/-- Changes what has arrived on the connection, if there is one. -/
def onInbound (client : Client) (change : Inbound → Inbound) : Client :=
  match client.link with
  | .up connection =>
    { client with link := .up { connection with inbound := change connection.inbound } }
  | _ => client

/-- The next attempt to connect begins. -/
def wake (client : Client) : Client :=
  match client.link with
  | .sleeping wakeAt => if wakeAt ≤ client.now then { client with link := .connecting } else client
  | _ => client

/-- Time passes, up to the next attempt. -/
def elapse (client : Client) (ms : Nat) : Client :=
  match client.link with
  | .sleeping wakeAt =>
    { client with now := min (client.now + ms) (max wakeAt client.now) }
  | _ => { client with now := client.now + ms }

/-- What the connection task runs on goes away, and the task with it. -/
def shutDown (client : Client) : Client := { client with link := .gone }

end Client

/-! ### Runs -/

/-- One move of a run of a client. -/
inductive ClientMove where
  | subscribe (channel : String) (callback : Nat)
  | enqueue (channel : String)
  | announce (channel message : String)
  | connected
  | unreachable (reason : String)
  | emptyQueue
  | list (order : List String)
  | replay (fault : Option String)
  | serveCommand (fault : Option String)
  | serveLine
  | receive (bytes : List UInt8)
  | hangUp
  | wake
  | elapse (ms : Nat)
  | shutDown
  deriving DecidableEq, Repr

namespace Client

/-- One move. -/
def step (client : Client) : ClientMove → Client × List ClientAct
  | .subscribe channel callback => client.subscribe channel callback
  | .enqueue channel => client.enqueue channel
  | .announce channel message => client.announce channel message
  | .connected => client.connected
  | .unreachable reason => client.unreachable reason
  | .emptyQueue => client.emptyQueue
  | .list order => (client.list order, [])
  | .replay fault => client.replay fault
  | .serveCommand fault => client.serveCommand fault
  | .serveLine => client.serveLine
  | .receive bytes => (client.onInbound (·.receive bytes), [])
  | .hangUp => (client.onInbound (·.hangUp), [])
  | .wake => (client.wake, [])
  | .elapse ms => (client.elapse ms, [])
  | .shutDown => (client.shutDown, [])

/-- A run: the moves one after the other, with what could be seen. -/
def run (client : Client) : List ClientMove → Client × List ClientAct
  | [] => (client, [])
  | move :: rest =>
    let (client, first) := client.step move
    let (client, more) := client.run rest
    (client, first ++ more)

end Client

end ReplicaSync.Fanout
