import ReplicaSync.Coordinator.World
import ReplicaSync.Fanout.Client
import ReplicaSync.Rehearsal.Network
import ReplicaSync.Rehearsal.Script

/-!
# Rehearsals

A rehearsal drives a coordinator on a clock of its own. The pipeline follows a script; the other
adapters are stand-ins with prepared answers, or the ones for the desktop on a machine without a
network. After every instruction all tasks go on until none can without time or another
instruction. Timers that are due at the same moment go off in the order in which they were set,
and callbacks that they spawn begin after them.
-/

namespace ReplicaSync

/-! ### The stage -/

/-- A directory that was to be watched, as the adapters saw it. -/
inductive WatchedRoot where
  | standIn (root : Path) (ignored : List Path)
  | recursive (root : Path)
  deriving DecidableEq, Repr

/-- The prepared answers of the stand-ins. -/
structure StandIns where
  watch : Except AdapterError Unit
  subscribe : Except AdapterError Unit
  /-- The answers to the announcements, one after the other; later ones are accepted. -/
  announce : List (Except AdapterError Unit)

/-- The adapters beside the pipeline. -/
inductive Adapters where
  | standIns (answers : StandIns)
  /-- The watcher of the desktop, and its client if announcements are enabled. -/
  | desktop (client : Option Fanout.Client)

/-- What a timer is for. -/
inductive TimerKind where
  | wake (task : Nat)
  /-- The delay of the phase for which the task waits. -/
  | phase (task : Nat)
  | quietPeriod
  | reconnect
  deriving DecidableEq, Repr

/-- A timer; of two, the one with the lower ticket was set first. -/
structure Timer where
  due : Nat
  ticket : Nat
  kind : TimerKind
  deriving DecidableEq, Repr

/-- Goes off before the other. -/
def Timer.isBefore (a b : Timer) : Bool :=
  a.due < b.due || a.due = b.due && a.ticket < b.ticket

/-- A rehearsal under way. -/
structure Rehearsal where
  world : World
  adapters : Adapters
  passes : List PassScript
  /-- The number of pulls so far. -/
  pulls : Nat
  permits : Nat
  /-- The task whose phase waits for a permit. -/
  waiting : Option Nat
  timers : List Timer
  tickets : Nat
  /-- The stand-in for the watcher was given a callback. -/
  hasChangeCallback : Bool
  /-- The stand-in for the channel was given a callback. -/
  hasMessageCallback : Bool
  /-- The tasks begun by instructions; an instruction may find nothing to begin. -/
  tasks : List (Option Nat)
  /-- The loops begun by instructions. -/
  loops : List Nat
  /-- What the operating system has in store for the next watch. -/
  faults : Watcher.Faults
  /-- The directories that were to be watched since the last report. -/
  watched : List WatchedRoot
  /-- What was done since the last report, newest first. -/
  recent : List Note

namespace Rehearsal

/-- Sets a timer, behind all others that are due at the same moment. -/
def setTimer (r : Rehearsal) (due : Nat) (kind : TimerKind) : Rehearsal :=
  { r with timers := r.timers ++ [⟨due, r.tickets, kind⟩], tickets := r.tickets + 1 }

/-- Takes away the timers of a kind. -/
def clearTimer (r : Rehearsal) (kind : TimerKind) : Rehearsal :=
  { r with timers := r.timers.filter fun timer => timer.kind ≠ kind }

/-- What was done since the last report, in order. -/
def notes (r : Rehearsal) : List Note := r.recent.reverse

/-- Makes a move and notes what it did. -/
def move (r : Rehearsal) (move : Move) : Rehearsal × List Note :=
  let (world, notes) := r.world.step move
  ({ r with world, recent := notes.reverse ++ r.recent }, notes)

/-- Lets an adapter log something. -/
def remark (r : Rehearsal) (records : List LogRecord) : Rehearsal :=
  records.foldl (fun r record => (r.move (.remark record)).1) r

end Rehearsal

end ReplicaSync
