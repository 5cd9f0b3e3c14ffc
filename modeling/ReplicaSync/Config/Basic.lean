import ReplicaSync.Config.Endpoint
import ReplicaSync.Identity
import ReplicaSync.Path.Basic
import ReplicaSync.Time.Duration
import ReplicaSync.Trigger

/-!
# The configuration of a replica

Which directory is kept in step, where the program keeps its own files, how often a pass runs and
whether changes are announced. The program's own directories are not watched, or its bookkeeping
would trigger passes without end.
-/

namespace ReplicaSync

/-- The configuration of one replica. -/
structure WatchConfig where
  localDir : Path
  appDir : Path
  cacheDir : Path
  databaseDir : Path
  logDir : Path
  repository : Identity
  interval : Duration
  announcements : Option Endpoint
  policy : TriggerPolicy
  debounce : Duration
  deriving DecidableEq

namespace WatchConfig

/-- The program's own directories. -/
def ignoredPaths (config : WatchConfig) : List Path :=
  [config.appDir, config.cacheDir, config.databaseDir, config.logDir]

/-- The name of the channel that the replicas of the repository share. -/
def channelKey (config : WatchConfig) : String := config.repository.toHex

def announces (config : WatchConfig) : Bool := config.announcements.isSome

/-- Refuses an empty directory, then an interval of zero, then the endpoint. -/
def validate (config : WatchConfig) : Except ConfigFault Unit :=
  if config.localDir.bytes = [] then .error .localDirEmpty
  else if config.interval.isZero then .error .intervalZero
  else match config.announcements with
    | some endpoint => endpoint.validate
    | none => .ok ()

end WatchConfig

end ReplicaSync
