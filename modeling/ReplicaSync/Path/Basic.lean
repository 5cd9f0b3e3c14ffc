import ReplicaSync.Text.Utf8

/-!
# Paths

A path is a byte string and is kept as it was written. Two paths are compared by their components:
repeated and trailing slashes and single dots do not count, except a dot in front of a relative
path, while a double dot is a component like any other. A path lies under another if the
components of the second are the first components of it; so everything lies under the empty path.
-/

namespace ReplicaSync

/-- A path as it was written. -/
structure Path where
  bytes : List UInt8
  deriving DecidableEq, Repr, Inhabited

namespace Path

/-- The byte that separates components. -/
def slash : UInt8 := 0x2F

/-- The byte of a single dot. -/
def dot : UInt8 := 0x2E

def ofString (s : String) : Path := ⟨s.toUTF8.toList⟩

/-- The path as text, with U+FFFD for bytes that are no text. -/
def display (p : Path) : String := Text.Utf8.decodeLossy p.bytes

def isAbsolute (p : Path) : Bool := p.bytes.head? = some slash

/-- A component: the root, the dot in front of a relative path, or a name. -/
inductive Component where
  | root
  | here
  | name (bytes : List UInt8)
  deriving DecidableEq, Repr

/-- The byte strings between the slashes; there is always at least one. -/
def segments : List UInt8 → List (List UInt8)
  | [] => [[]]
  | b :: rest =>
    if b = slash then [] :: segments rest
    else match segments rest with
      | first :: more => (b :: first) :: more
      | [] => [[b]]

/-- The segment stands for no component of its own. -/
def isVoid (segment : List UInt8) : Bool := segment = [] || segment = [dot]

/-- The names among the segments. -/
def names (segments : List (List UInt8)) : List Component :=
  (segments.filter fun segment => !isVoid segment).map .name

/-- The component that a path begins with beside its names. -/
def anchor (p : Path) : List Component :=
  if p.isAbsolute then [.root]
  else if (segments p.bytes).head? = some [dot] then [.here]
  else []

/-- The components of a path. -/
def components (p : Path) : List Component := p.anchor ++ names (segments p.bytes)

/-- The path `p` is `base` or lies below it. -/
def isUnder (p base : Path) : Bool := base.components.isPrefixOf p.components

/-- The same components. -/
def isSameAs (p q : Path) : Bool := p.components = q.components

/-- Appends a path. An absolute one takes the place of the whole; otherwise a slash is put between
the two unless the first is empty or ends with one. -/
def join (p q : Path) : Path :=
  if q.isAbsolute then q
  else if p.bytes = [] || p.bytes.getLast? = some slash then ⟨p.bytes ++ q.bytes⟩
  else ⟨p.bytes ++ slash :: q.bytes⟩

/-- The path lies under one of the ignored ones. -/
def isIgnored (p : Path) (ignored : List Path) : Bool := ignored.any p.isUnder

theorem isIgnored_append (p : Path) (a b : List Path) :
    p.isIgnored (a ++ b) = (p.isIgnored a || p.isIgnored b) := by
  simp [isIgnored]

end Path

end ReplicaSync
