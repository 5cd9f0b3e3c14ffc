import ReplicaSync.Decimal.Shortest
import ReplicaSync.Json.Reader

/-!
# Values kept in memory

A value that is read before its type is known is kept in memory until then. This takes numbers that
are not beyond all measured values, and arrays and objects that lie within one another only up to a
limit. A member that is merely passed over may hold anything.
-/

namespace ReplicaSync.Json

/-- So many arrays and objects may lie within one another in a text. -/
def nestingLimit : Nat := 127

mutual

/-- The value can be kept: no number is out of range, and at most `depth` arrays and objects lie
within one another. An integer of up to 64 bits is kept as it is. -/
def fits (depth : Nat) : Json → Bool
  | .null | .bool _ | .str _ => true
  | .int n => decide (n.natAbs < Nat.pow 2 64) || Measure.isInRange ⟨n.natAbs, 0⟩
  | .real _ digits exponent => Measure.isInRange ⟨digits, exponent⟩
  | .arr items => decide (0 < depth) && itemsFit (depth - 1) items
  | .obj members => decide (0 < depth) && membersFit (depth - 1) members

def itemsFit (depth : Nat) : List Json → Bool
  | [] => true
  | item :: items => item.fits depth && itemsFit depth items

def membersFit (depth : Nat) : List (String × Json) → Bool
  | [] => true
  | (_, value) :: members => value.fits depth && membersFit depth members

end

/-- The value, if it can be kept. -/
def kept? (depth : Nat) (j : Json) : Option Json := if j.fits depth then some j else none

/-- The value that a text writes, kept in memory as a whole. -/
def load? (s : String) : Option Json := (parse? s).bind (kept? nestingLimit)

end ReplicaSync.Json
