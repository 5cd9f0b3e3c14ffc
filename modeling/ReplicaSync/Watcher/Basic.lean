import ReplicaSync.Failure
import ReplicaSync.Log.Entry
import ReplicaSync.Time.Duration
import ReplicaSync.Watcher.RawEvent

/-!
# Watching the file system

A watch collects changes into batches: a batch is settled when the quiet period has passed since
its last change, and then its callback runs once. Starting a watch takes the place of an earlier
one; a batch that is still being collected goes away with its watch.
-/

namespace ReplicaSync

/-- A watch on a directory. -/
structure Watch where
  root : Path
  ignored : List Path
  /-- The number of the start that made it. -/
  number : Nat
  /-- The end of the quiet period, while a batch is being collected. -/
  due : Option Nat
  deriving DecidableEq, Repr

/-- A watcher, with at most one watch. -/
structure Watcher where
  debounce : Duration
  watch : Option Watch
  deriving DecidableEq, Repr

namespace Watcher

def new (debounce : Duration) : Watcher := ⟨debounce, none⟩

def isRunning (watcher : Watcher) : Bool := watcher.watch.isSome

/-- The end of the running quiet period. -/
def due? (watcher : Watcher) : Option Nat := watcher.watch.bind (·.due)

def note (level : LogLevel) (message : String) (fields : List (String × String)) : LogRecord :=
  .make level "bridge_desktop::watcher" none message fields

/-- The failures that the operating system has in store for the next watch. -/
structure Faults where
  creation : Option String
  watching : Option String
  deriving DecidableEq, Repr

def Faults.none : Faults := ⟨Option.none, Option.none⟩

/-- What is left in store after a watch was tried. -/
def Faults.spend (faults : Faults) : Faults :=
  if faults.creation.isSome then { faults with creation := Option.none } else .none

/-- Watches a directory. The failure to create a watch comes before the failure to watch. -/
def start (watcher : Watcher) (resolve : Path → Option Path) (root : Path) (ignored : List Path)
    (number : Nat) (faults : Faults) : Except AdapterError (Watcher × List LogRecord) :=
  match faults.creation, faults.watching with
  | some text, _ => .error (.watch s!"Failed to create watcher: {text}")
  | none, some text => .error (.watch s!"Failed to watch {root.display}: {text}")
  | none, none =>
    let replaced :=
      if watcher.isRunning then [note .debug "Replaced previous file watcher" []] else []
    let started := note .info "Watching directory recursively"
      [("root", root.display), ("debounce_ms", toString watcher.debounce.millisWord)]
    .ok ({ watcher with watch := some ⟨root, Path.withResolved resolve ignored, number, none⟩ },
      replaced ++ [started])

/-- Ends the watch, if there is one. -/
def stop (watcher : Watcher) : Watcher × List LogRecord :=
  ({ watcher with watch := none },
    if watcher.isRunning then [note .debug "File watcher stopped" []] else [])

/-- Takes in an event: one that counts begins the quiet period anew. -/
def notice (watcher : Watcher) (now : Nat) (event : RawEvent) : Watcher :=
  match watcher.watch with
  | none => watcher
  | some watch =>
    if event.isRelevant watch.ignored then
      { watcher with watch := some { watch with due := some (now + watcher.debounce.ticks) } }
    else watcher

/-- What the watcher says about an error of the operating system. -/
def complain (watcher : Watcher) (text : String) : List LogRecord :=
  if watcher.isRunning then [note .warn "File watcher error" [("error", text)]] else []

def settled : LogRecord := note .debug "Filesystem changes settled" []

/-- Settles the batch whose quiet period is over; the answer is the number of its watch. -/
def settle (watcher : Watcher) (now : Nat) : Watcher × Option Nat :=
  match watcher.watch with
  | some watch =>
    match watch.due with
    | some due =>
      if due ≤ now then
        ({ watcher with watch := some { watch with due := none } }, some watch.number)
      else (watcher, none)
    | none => (watcher, none)
  | none => (watcher, none)

end Watcher

end ReplicaSync
