import ReplicaSync.Path.Basic

/-!
# Resolving paths on a disk

A disk is known by its directories. The canonical form of a path that exists is absolute and has no
dots: a single dot stays where it is, a double dot goes up, and every directory passed through has
to exist. A path that does not exist has no canonical form.
-/

namespace ReplicaSync

/-- The directories of a disk, each by the names that lead to it from the root. -/
structure Disk where
  directories : List (List (List UInt8))

namespace Disk

/-- The directory exists; the root always does. -/
def has (disk : Disk) (names : List (List UInt8)) : Bool :=
  names = [] || disk.directories.contains names

/-- Follows the segments of a path from a directory. -/
def walk (disk : Disk) : List (List UInt8) → List (List UInt8) → Option (List (List UInt8))
  | here, [] => some here
  | here, segment :: rest =>
    if Path.isVoid segment then walk disk here rest
    else if segment = [Path.dot, Path.dot] then walk disk here.dropLast rest
    else if disk.has (here ++ [segment]) then walk disk (here ++ [segment]) rest
    else none

/-- The absolute path with these names. -/
def absolute (names : List (List UInt8)) : Path :=
  if names = [] then ⟨[Path.slash]⟩ else ⟨names.flatMap (Path.slash :: ·)⟩

/-- The canonical form of a path, if it exists. -/
def canonical? (disk : Disk) (p : Path) : Option Path :=
  if p.isAbsolute then (disk.walk [] (Path.segments p.bytes)).map absolute else none

/-- A disk with these directories, given as texts. -/
def ofStrings (directories : List (List String)) : Disk :=
  ⟨directories.map fun names => names.map (·.toUTF8.toList)⟩

end Disk

end ReplicaSync
