import ReplicaSync.Path.Disk
import ReplicaSync.Watcher.Basic

/-!
# Rehearsals of a watcher

A watcher alone, on a clock of its own and with an operating system that does as it is told. Each
attempt to start has a callback with its number. The clock stops on its way where a quiet period
ends, so a batch settles at that very moment.
-/

namespace ReplicaSync

/-- One instruction of a rehearsal of a watcher. -/
inductive WatcherInstruction where
  | start (root : Path) (ignored : List Path)
  | stop
  | raw (event : RawEvent)
  | rawError (text : String)
  /-- The next creation of a watch fails. -/
  | failCreation (text : String)
  /-- The next watch on a directory fails. -/
  | failWatching (text : String)
  | advance (ms : Nat)
  deriving DecidableEq, Repr

/-- A callback that was spawned for a batch. -/
structure Firing where
  time : Nat
  /-- The number of the start that it was handed to. -/
  number : Nat
  deriving DecidableEq, Repr

/-- What an instruction led to. -/
structure WatcherReport where
  /-- The answer to an attempt to start. -/
  result : Option (Except AdapterError Unit)
  running : Bool
  firings : List Firing
  watched : List Path
  records : List LogRecord

/-- The callbacks that ran, by number. -/
def WatcherReport.fired (report : WatcherReport) : List Nat := report.firings.map (·.number)

/-- A rehearsal under way. -/
structure WatcherRehearsal where
  watcher : Watcher
  disk : Disk
  now : Nat
  /-- The number of attempts to start. -/
  starts : Nat
  faults : Watcher.Faults

namespace WatcherRehearsal

def new (debounce : Duration) (disk : Disk) : WatcherRehearsal :=
  ⟨.new debounce, disk, 0, 0, .none⟩

/-- Settles what is due. -/
def settleDue (r : WatcherRehearsal) : WatcherRehearsal × List Firing × List LogRecord :=
  match r.watcher.settle r.now with
  | (watcher, some number) => ({ r with watcher }, [⟨r.now, number⟩], [Watcher.settled])
  | (_, none) => (r, [], [])

/-- Lets time pass. If a quiet period ends on the way, its batch settles when it ends. -/
def pass (r : WatcherRehearsal) (ms : Nat) : WatcherRehearsal × List Firing × List LogRecord :=
  let later := r.now + ms
  let stop := min later (max (r.watcher.due?.getD later) r.now)
  let (r, firings, records) := { r with now := stop }.settleDue
  ({ r with now := later }, firings, records)

/-- The report on an instruction that is no attempt to start. -/
def reportOn (r : WatcherRehearsal) (firings : List Firing) (records : List LogRecord) :
    WatcherRehearsal × WatcherReport :=
  (r, ⟨none, r.watcher.isRunning, firings, [], records⟩)

/-- Attempts to start a watch. -/
def start (r : WatcherRehearsal) (root : Path) (ignored : List Path) :
    WatcherRehearsal × WatcherReport :=
  let attempt := r.watcher.start r.disk.canonical? root ignored r.starts r.faults
  let r := { r with starts := r.starts + 1, faults := r.faults.spend }
  match attempt with
  | .ok (watcher, records) =>
    ({ r with watcher }, ⟨some (.ok ()), watcher.isRunning, [], [root], records⟩)
  | .error error => (r, ⟨some (.error error), r.watcher.isRunning, [], [], []⟩)

/-- Carries out an instruction. -/
def carryOut (r : WatcherRehearsal) : WatcherInstruction → WatcherRehearsal × WatcherReport
  | .start root ignored => r.start root ignored
  | .stop =>
    let (watcher, records) := r.watcher.stop
    { r with watcher }.reportOn [] records
  | .raw event =>
    let (r, firings, records) := { r with watcher := r.watcher.notice r.now event }.settleDue
    r.reportOn firings records
  | .rawError text => r.reportOn [] (r.watcher.complain text)
  | .failCreation text =>
    { r with faults := { r.faults with creation := some text } }.reportOn [] []
  | .failWatching text =>
    { r with faults := { r.faults with watching := some text } }.reportOn [] []
  | .advance ms =>
    let (r, firings, records) := r.pass ms
    r.reportOn firings records

/-- The reports of a rehearsal, one after each instruction. -/
def run (r : WatcherRehearsal) : List WatcherInstruction → List WatcherReport
  | [] => []
  | instruction :: rest =>
    let (r, report) := r.carryOut instruction
    report :: r.run rest

end WatcherRehearsal

end ReplicaSync
