import ReplicaSync.Config.Basic

/-!
# Drafting a configuration

A configuration is put together from settings given in any order. Settings of one kind replace
each other, whatever they hold: a value that would have been refused does no harm once it has been
replaced. Directories that are not set have their place inside the one above them.
-/

namespace ReplicaSync

/-- One setting of a configuration. -/
inductive Setting where
  | localDir (path : Path)
  | appDir (path : Path)
  | cacheDir (path : Path)
  | databaseDir (path : Path)
  | logDir (path : Path)
  | repository (id : Identity)
  | repositoryBytes (bytes : List UInt8)
  | repositoryHex (text : String)
  | interval (span : Duration)
  | intervalMillis (ms : Nat)
  | announcements (host : String) (port : UInt16)
  | announcementEndpoint (endpoint : Option Endpoint)
  | policy (policy : TriggerPolicy)
  | debounce (span : Duration)
  deriving DecidableEq

/-- What has been set so far. -/
structure Draft where
  localDir : Option Path
  appDir : Option Path
  cacheDir : Option Path
  databaseDir : Option Path
  logDir : Option Path
  repository : Option (Except IdentityFault Identity)
  interval : Option Duration
  announcements : Option Endpoint
  policy : TriggerPolicy
  debounce : Option Duration

namespace Draft

def empty : Draft := ⟨none, none, none, none, none, none, none, none, .drop, none⟩

/-- Takes over a setting in place of an earlier one of its kind. -/
def set (draft : Draft) : Setting → Draft
  | .localDir path => { draft with localDir := some path }
  | .appDir path => { draft with appDir := some path }
  | .cacheDir path => { draft with cacheDir := some path }
  | .databaseDir path => { draft with databaseDir := some path }
  | .logDir path => { draft with logDir := some path }
  | .repository id => { draft with repository := some (.ok id) }
  | .repositoryBytes bytes => { draft with repository := some (Identity.ofBytes bytes) }
  | .repositoryHex text => { draft with repository := some (Identity.ofHex text) }
  | .interval span => { draft with interval := some span }
  | .intervalMillis ms => { draft with interval := some (.ofMillis ms) }
  | .announcements host port => { draft with announcements := some ⟨host, port⟩ }
  | .announcementEndpoint endpoint => { draft with announcements := endpoint }
  | .policy policy => { draft with policy := policy }
  | .debounce span => { draft with debounce := some span }

/-- The draft that these settings leave, taken over one by one. -/
def ofSettings (settings : List Setting) : Draft := settings.foldl set empty

/-- The time between passes unless set. -/
def defaultInterval : Duration := .ofMillis 30000

/-- The quiet period after a change unless set. -/
def defaultDebounce : Duration := .ofMillis 3000

/-- The directory as set, or one inside another. -/
def directory (chosen : Option Path) (parent : Path) (name : String) : Path :=
  chosen.getD (parent.join (.ofString name))

/-- The configuration with this directory and this identity. -/
def fill (draft : Draft) (localDir : Path) (repository : Identity) : WatchConfig :=
  let appDir := directory draft.appDir localDir ".syncany"
  { localDir, appDir, repository
    cacheDir := directory draft.cacheDir appDir "cache"
    databaseDir := directory draft.databaseDir appDir "db"
    logDir := directory draft.logDir appDir "logs"
    interval := draft.interval.getD defaultInterval
    announcements := draft.announcements
    policy := draft.policy
    debounce := draft.debounce.getD defaultDebounce }

/-- The configuration, if the draft is complete and what it sets is accepted. -/
def build (draft : Draft) : Except SetupError WatchConfig :=
  match draft.localDir, draft.repository with
  | none, _ => .error (.config .localDirMissing)
  | some _, none => .error (.config .repositoryMissing)
  | some _, some (.error fault) => .error (.identity fault)
  | some localDir, some (.ok repository) =>
    let config := draft.fill localDir repository
    match config.validate with
    | .ok () => .ok config
    | .error fault => .error (.config fault)

end Draft

/-- The configuration that these settings describe. -/
def WatchConfig.ofSettings (settings : List Setting) : Except SetupError WatchConfig :=
  (Draft.ofSettings settings).build

end ReplicaSync
