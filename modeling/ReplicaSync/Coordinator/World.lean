import ReplicaSync.Coordinator.Task
import ReplicaSync.Event.Bus
import ReplicaSync.Watcher.Basic

/-!
# Runs of a coordinator

A run is a list of moves. Each move lets one task go on for one stretch, or lets something happen
outside: a task is started, a call answered, a task dropped, a file changed, an event read. Any
order of moves is a run, so a statement about all runs is one about all ways in which tasks can be
interleaved. Time stands still unless a move lets it pass, and it does not pass over a moment at
which a loop wakes or a batch of changes settles.
-/

namespace ReplicaSync

/-- What an observer of the bus does. -/
inductive Observation where
  | subscribe (filter : Option (Event → Bool))
  | tryRecv (stream : Nat)
  | recv (stream : Nat)
  | unsubscribe (stream : Nat)
  | cloneHandle
  | dropHandle (handle : Nat)

/-- One move of a run. -/
inductive Move where
  /-- A task begins; a loop may begin with its cancellation already requested. -/
  | start (errand : Errand) (cancelled : Bool)
  /-- The call that a task waits for is answered. -/
  | answer (task : Nat) (answer : Answer)
  /-- The call that a task waits for panics, and the task with it. -/
  | panic (task : Nat)
  /-- A task is dropped where it waits. -/
  | drop (task : Nat)
  | cancel (task : Nat)
  | wake (task : Nat)
  /-- The operating system reports something to the watcher. -/
  | raw (event : RawEvent)
  | rawError (text : String)
  /-- The quiet period of a batch is over. -/
  | settle
  /-- A callback begins that a settled batch had spawned. -/
  | callback
  /-- Time passes, up to the next moment at which something is due. -/
  | elapse (ms : Nat)
  | observe (observation : Observation)
  /-- An adapter logs something of its own. -/
  | remark (record : LogRecord)

/-- What a move did, when, and which task did it. -/
structure Note where
  time : Nat
  task : Option Nat
  act : Act
  deriving DecidableEq

/-- The state of a run. -/
structure World where
  coordinator : Coordinator
  /-- How the watcher resolves paths, if the coordinator has the one for the desktop. -/
  resolve : Option (Path → Option Path)
  shared : Shared
  tasks : List Task
  watcher : Watcher
  /-- Callbacks that were spawned and have not begun. -/
  spawned : Nat
  bus : EventBus
  now : Nat

namespace World

/-- The world of a coordinator that has done nothing yet. -/
def new (coordinator : Coordinator) (resolve : Option (Path → Option Path)) (bus : EventBus) :
    World :=
  { coordinator, resolve, bus
    shared := .new
    tasks := []
    watcher := .new coordinator.config.debounce
    spawned := 0
    now := 0 }

/-- The moments at which something is due. -/
def dues (world : World) : List Nat :=
  world.watcher.due?.toList ++ world.tasks.filterMap (·.wakeAt?)

/-- How far the clock may go. -/
def clockAfter (world : World) (ms : Nat) : Nat :=
  world.dues.foldl (fun now due => min now (max due world.now)) (world.now + ms)

/-- Acts of a task as notes. -/
def notes (world : World) (task : Option Nat) (acts : List Act) : List Note :=
  acts.map fun act => ⟨world.now, task, act⟩

/-- Hands the events among the acts to the bus. -/
def publish (bus : EventBus) (acts : List Act) : EventBus :=
  acts.foldl (fun bus act => match act with
    | .publish event => (bus.emit event).1
    | _ => bus) bus

/-- Takes over what a task did. -/
def commit (world : World) (number : Nat) (step : TaskStep) : World × List Note :=
  ({ world with
      shared := step.shared
      tasks := world.tasks.set number step.task
      bus := publish world.bus step.acts },
    world.notes (some number) step.acts)

/-- Lets a new task run its first stretch. -/
def begin (world : World) (errand : Errand) (cancelled : Bool) : World × List Note :=
  let step := Task.start world.coordinator world.now world.shared errand cancelled
  { world with tasks := world.tasks ++ [step.task] }.commit world.tasks.length step

/-- Lets a task do something, if there is one with this number. -/
def act (world : World) (number : Nat) (step : Task → TaskStep) : World × List Note :=
  match world.tasks[number]? with
  | some task => world.commit number (step task)
  | none => (world, [])

/-- A watch on the file system was started for the task; the watcher says so. -/
def watchStarted (world : World) (number : Nat) : World × List Note :=
  match world.resolve with
  | none => (world, [])
  | some resolve =>
    let config := world.coordinator.config
    match world.watcher.start resolve config.localDir config.ignoredPaths 0 .none with
    | .ok (watcher, records) =>
      ({ world with watcher }, world.notes (some number) (records.map .log))
    | .error _ => (world, [])

/-- Answers the call of a task. -/
def answer (world : World) (number : Nat) (answer : Answer) : World × List Note :=
  match (world.tasks[number]?).map Task.stage, answer with
  | some .watching, .replied (.ok ()) =>
    let (world, started) := world.watchStarted number
    let (world, notes) := world.act number fun task =>
      task.resume world.coordinator world.now world.shared answer
    (world, started ++ notes)
  | _, _ =>
    world.act number fun task => task.resume world.coordinator world.now world.shared answer

/-- Lets an observer do something. -/
def observe (bus : EventBus) : Observation → EventBus
  | .subscribe filter => (bus.subscribe filter).1
  | .tryRecv stream => (bus.tryRecv stream).1
  | .recv stream => (bus.recv stream).1
  | .unsubscribe stream => (bus.unsubscribe stream).1
  | .cloneHandle => bus.cloneHandle.1
  | .dropHandle handle => (bus.dropHandle handle).1

/-- One move. -/
def step (world : World) : Move → World × List Note
  | .start errand cancelled => world.begin errand cancelled
  | .answer number answer => world.answer number answer
  | .panic number => world.act number (·.abandon world.shared .panicked)
  | .drop number => world.act number (·.abandon world.shared .aborted)
  | .cancel number => world.act number (·.cancel world.shared)
  | .wake number => world.act number (·.wake world.coordinator world.now world.shared)
  | .raw event => ({ world with watcher := world.watcher.notice world.now event }, [])
  | .rawError text => (world, world.notes none ((world.watcher.complain text).map .log))
  | .settle =>
    match world.watcher.settle world.now with
    | (watcher, some _) =>
      ({ world with watcher, spawned := world.spawned + 1 },
        world.notes none [.log Watcher.settled])
    | (_, none) => (world, [])
  | .callback =>
    match world.spawned with
    | 0 => (world, [])
    | left + 1 => { world with spawned := left }.begin .change false
  | .elapse ms => ({ world with now := world.clockAfter ms }, [])
  | .observe observation => ({ world with bus := observe world.bus observation }, [])
  | .remark record => (world, world.notes none [.log record])

/-- A run: the moves one after the other, with what they did. -/
def run (world : World) : List Move → World × List Note
  | [] => (world, [])
  | move :: rest =>
    let (world, first) := world.step move
    let (world, more) := world.run rest
    (world, first ++ more)

theorem run_append (world : World) (a b : List Move) :
    world.run (a ++ b) =
      ((world.run a).1.run b |>.1, (world.run a).2 ++ ((world.run a).1.run b).2) := by
  induction a generalizing world with
  | nil => rfl
  | cons move rest ih => simp [run, ih]

end World

end ReplicaSync
