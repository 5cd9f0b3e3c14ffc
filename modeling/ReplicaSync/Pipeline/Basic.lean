/-!
# The two phases of a pass

A pass first pulls remote changes and then pushes local ones. What the phases do is up to the
pipeline; a pass looks at the code of the push and at whether its change set has anything new,
changed or deleted.
-/

namespace ReplicaSync

/-- What pulling found. -/
inductive PullCode where
  | appliedRemoteChanges
  | noRemoteChanges
  deriving DecidableEq, Repr

namespace PullCode

def name : PullCode → String
  | .appliedRemoteChanges => "AppliedRemoteChanges"
  | .noRemoteChanges => "NoRemoteChanges"

def named : List (String × PullCode) :=
  [("AppliedRemoteChanges", .appliedRemoteChanges), ("NoRemoteChanges", .noRemoteChanges)]

end PullCode

/-- The result of pulling, with the number of remote databases merged. -/
structure PullResult where
  code : PullCode
  databasesApplied : Nat
  deriving DecidableEq, Repr

def PullResult.noChanges : PullResult := ⟨.noRemoteChanges, 0⟩

/-- What pushing did. -/
inductive PushCode where
  | appliedChanges
  | noChanges
  /-- Refused, because the remote side has databases that were not pulled. -/
  | unknownDatabases
  deriving DecidableEq, Repr

namespace PushCode

def name : PushCode → String
  | .appliedChanges => "AppliedChanges"
  | .noChanges => "NoChanges"
  | .unknownDatabases => "UnknownDatabases"

def named : List (String × PushCode) :=
  [("AppliedChanges", .appliedChanges), ("NoChanges", .noChanges),
   ("UnknownDatabases", .unknownDatabases)]

end PushCode

/-- The files that pushing met, by what had happened to them. -/
structure ChangeSet where
  newFiles : List String
  changedFiles : List String
  deletedFiles : List String
  unchangedFiles : List String
  deriving DecidableEq, Repr

namespace ChangeSet

def empty : ChangeSet := ⟨[], [], [], []⟩

/-- What happened to a file. -/
inductive Kind where
  | new
  | changed
  | deleted
  | unchanged
  deriving DecidableEq, Repr

def add (changes : ChangeSet) (path : String) : Kind → ChangeSet
  | .new => { changes with newFiles := changes.newFiles ++ [path] }
  | .changed => { changes with changedFiles := changes.changedFiles ++ [path] }
  | .deleted => { changes with deletedFiles := changes.deletedFiles ++ [path] }
  | .unchanged => { changes with unchangedFiles := changes.unchangedFiles ++ [path] }

/-- Something is new, changed or deleted; unchanged files do not count. -/
def hasChanges (changes : ChangeSet) : Bool :=
  !changes.newFiles.isEmpty || !changes.changedFiles.isEmpty || !changes.deletedFiles.isEmpty

/-- The number of files that are new, changed or deleted. -/
def count (changes : ChangeSet) : Nat :=
  changes.newFiles.length + changes.changedFiles.length + changes.deletedFiles.length

end ChangeSet

/-- The result of pushing. -/
structure PushResult where
  code : PushCode
  changes : ChangeSet
  deriving DecidableEq, Repr

namespace PushResult

def noChanges : PushResult := ⟨.noChanges, .empty⟩

/-- The push uploaded something that other replicas lack. -/
def uploaded (result : PushResult) : Bool :=
  result.code = .appliedChanges && result.changes.hasChanges

end PushResult

end ReplicaSync
