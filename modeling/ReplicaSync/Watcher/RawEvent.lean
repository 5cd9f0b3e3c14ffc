import ReplicaSync.Path.Basic

/-!
# Raw events of the file system

The operating system reports what happened to which paths. Reading a file is no change. An event
without paths may stand for anything, so it counts; any other counts if one of its paths lies
outside the ignored directories. The system may report resolved paths, so the resolved form of an
ignored directory is ignored as well.
-/

namespace ReplicaSync

/-- What happened, as the operating system puts it. -/
inductive RawKind where
  | unknown
  | access
  | create
  | modify
  | remove
  | other
  deriving DecidableEq, Repr

structure RawEvent where
  kind : RawKind
  paths : List Path
  deriving DecidableEq, Repr

/-- The event counts as a change. -/
def RawEvent.isRelevant (event : RawEvent) (ignored : List Path) : Bool :=
  event.kind ≠ .access &&
    (event.paths.isEmpty || event.paths.any fun path => !path.isIgnored ignored)

namespace Path

/-- The resolved form of a path, if it is another path. -/
def otherForm? (resolve : Path → Option Path) (path : Path) : Option Path :=
  (resolve path).filter fun resolved => !resolved.isSameAs path

/-- The paths, and then the resolved forms of those that have one. -/
def withResolved (resolve : Path → Option Path) (paths : List Path) : List Path :=
  paths ++ paths.filterMap (otherForm? resolve)

end Path

end ReplicaSync
