import ReplicaSync.Config.Basic
import ReplicaSync.Event.Basic
import ReplicaSync.Gate
import ReplicaSync.Log.Entry

/-!
# Coordinators

A coordinator is a configuration and the adapters it works with. A notification channel is needed
if announcements are enabled, and left unused if they are not. What a running coordinator changes
is the gate and the number of passes begun.
-/

namespace ReplicaSync

/-- A coordinator as it was built. -/
structure Coordinator where
  config : WatchConfig
  hasWatcher : Bool
  /-- A channel is there and announcements are enabled. -/
  hasChannel : Bool
  deriving DecidableEq

namespace Coordinator

/-- The target of its records. -/
def target : String := "core_sync::coordinator"

/-- The record of a channel that is left unused. -/
def channelIgnored : LogRecord :=
  .make .debug target none "Announcements disabled, ignoring notification channel" []

/-- Builds a coordinator with the adapters that are given, and says what there is to log. -/
def build (config : WatchConfig) (watcher channel : Bool) :
    Except SyncError (Coordinator × List LogRecord) :=
  match config.validate with
  | .error fault => .error (.setup (.config fault))
  | .ok () =>
    match config.announcements, channel with
    | some endpoint, false => .error (.config (.channelMissing endpoint.address))
    | some _, true => .ok (⟨config, watcher, true⟩, [])
    | none, true => .ok (⟨config, watcher, false⟩, [channelIgnored])
    | none, false => .ok (⟨config, watcher, false⟩, [])

/-- Builds a coordinator with a watcher of the file system and, if announcements are enabled, a
channel through the endpoint; its connection needs a runtime. -/
def buildDesktop (config : WatchConfig) (runtime : Bool) :
    Except SyncError (Coordinator × List LogRecord) :=
  if config.announces && !runtime then .error (.config .runtimeMissing)
  else build config true config.announces

end Coordinator

/-- What all tasks of a coordinator share. -/
structure Shared where
  gate : Gate
  /-- The number of passes begun. -/
  passes : Nat
  deriving DecidableEq, Repr

def Shared.new : Shared := ⟨.new, 0⟩

end ReplicaSync
