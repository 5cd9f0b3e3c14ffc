/-!
# Sets of characters given by ranges of code points

The character properties of this library are finite unions of closed ranges. A range list is
searched from the left; the lists are ascending, and membership does not depend on it.
-/

namespace ReplicaSync.Text

/-- Ascending closed ranges of code points. -/
abbrev Ranges := List (Nat × Nat)

/-- The character lies in one of the ranges. -/
def Ranges.contains (ranges : Ranges) (c : Char) : Bool :=
  ranges.any fun range => range.1 ≤ c.toNat && c.toNat ≤ range.2

end ReplicaSync.Text
