import ReplicaSync.Text.Quoted

/-!
# What can go wrong, and how it is said

Failures are named by their cause. An adapter to the outside world reports one of five kinds with a
text of its own; a set-up step refuses a configuration or an identity; a pass fails in one of its
phases. Each type has one function that words it.
-/

namespace ReplicaSync

/-! ### Adapters -/

/-- A failure reported by an adapter: the pipeline, the watcher, the notification channel or a log
sink. The text comes from the adapter. -/
inductive AdapterError where
  | notAvailable (text : String)
  | operationFailed (text : String)
  | connection (text : String)
  | watch (text : String)
  | io (text : String)
  deriving DecidableEq, Repr

def AdapterError.message : AdapterError → String
  | .notAvailable text => s!"Bridge capability not available: {text}"
  | .operationFailed text => s!"Bridge operation failed: {text}"
  | .connection text => s!"Connection error: {text}"
  | .watch text => s!"Watch error: {text}"
  | .io text => s!"IO error: {text}"

/-! ### Set-up -/

/-- Why a text or a byte string is no repository identity. -/
inductive IdentityFault where
  | empty
  /-- The text has an odd number of bytes. -/
  | oddLength (text : String)
  /-- The byte at this position of the text is no digit. -/
  | badDigit (text : String) (byte : UInt8) (position : Nat)
  | other (text : String)
  deriving DecidableEq, Repr

def IdentityFault.message : IdentityFault → String
  | .empty => "repository id cannot be empty"
  | .oddLength text => s!"{text}: Odd number of digits"
  | .badDigit text byte position =>
    let shown := Text.quotedChar (Char.ofNat byte.toNat)
    s!"{text}: Invalid character {shown} at position {position}"
  | .other text => text

/-- Why a configuration is refused. -/
inductive ConfigFault where
  | localDirMissing
  | repositoryMissing
  | localDirEmpty
  | intervalZero
  | hostBlank
  | portZero
  | unknownPolicy (text : String)
  /-- Announcements through this address have no channel to go through. -/
  | channelMissing (address : String)
  /-- The connection of the notification channel has nothing to run on. -/
  | runtimeMissing
  | other (text : String)
  deriving DecidableEq, Repr

def ConfigFault.message : ConfigFault → String
  | .localDirMissing => "Local directory is required. Use .local_dir() to set it."
  | .repositoryMissing => "Repository id is required. Use .repository_id() to set it."
  | .localDirEmpty => "Local directory cannot be empty"
  | .intervalZero => "Sync interval must be greater than 0ms"
  | .hostBlank => "Announcements host cannot be empty"
  | .portZero => "Announcements port must be greater than 0"
  | .unknownPolicy text => s!"Unknown trigger policy: {text}"
  | .channelMissing address =>
    s!"Announcements via {address} are enabled but no notification channel was provided. " ++
      "Use .notification_channel() to set it."
  | .runtimeMissing => "Announcements need a running tokio runtime for the fanout connection"
  | .other text => text

/-- A failure before anything runs. -/
inductive SetupError where
  | config (fault : ConfigFault)
  | identity (fault : IdentityFault)
  | internal (text : String)
  deriving DecidableEq, Repr

def SetupError.message : SetupError → String
  | .config fault => "Configuration error: " ++ fault.message
  | .identity fault => "Invalid repository identity: " ++ fault.message
  | .internal text => "Internal error: " ++ text

/-! ### Coordination -/

/-- A failure of the coordinator. A set-up failure met there is a configuration failure whose text
is the whole message of the first. -/
inductive SyncError where
  | pull (cause : AdapterError)
  | push (cause : AdapterError)
  | announce (cause : AdapterError)
  | config (fault : ConfigFault)
  | setup (cause : SetupError)
  | badTransition (source target : String)
  deriving DecidableEq, Repr

def SyncError.message : SyncError → String
  | .pull cause => "Pull phase failed: " ++ cause.message
  | .push cause => "Push phase failed: " ++ cause.message
  | .announce cause => "Announcement failed: " ++ cause.message
  | .config fault => "Configuration error: " ++ fault.message
  | .setup cause => "Configuration error: " ++ cause.message
  | .badTransition source target => s!"Invalid state transition from {source} to {target}"

end ReplicaSync
