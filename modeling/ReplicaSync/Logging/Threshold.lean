import ReplicaSync.Log.Level

/-!
# Log thresholds

A threshold says from which level on records are wanted. It is read from a number, or from a name
in any case of its letters.
-/

namespace ReplicaSync

/-- From which level on records are wanted; nothing is wanted if there is none. -/
structure LogThreshold where
  least : Option LogLevel
  deriving DecidableEq, Repr

namespace LogThreshold

/-- Nothing is wanted. -/
def nothing : LogThreshold := ⟨none⟩

/-- Everything is wanted. -/
def everything : LogThreshold := ⟨some .trace⟩

/-- The thresholds by number. -/
def numbered : List LogThreshold :=
  [nothing, ⟨some .error⟩, ⟨some .warn⟩, ⟨some .info⟩, ⟨some .debug⟩, everything]

/-- The thresholds by name. -/
def named : List (String × LogThreshold) :=
  [("off", nothing), ("error", ⟨some .error⟩), ("warn", ⟨some .warn⟩), ("info", ⟨some .info⟩),
   ("debug", ⟨some .debug⟩), ("trace", everything)]

/-- The number with these digits, which a plus may precede. -/
def number? (text : List Char) : Option Nat :=
  let digits := if text.head? = some '+' then text.drop 1 else text
  if digits ≠ [] && digits.all Char.isDigit then some (Nat.ofDigitChars 10 digits 0) else none

/-- Reads a number, or a name in any case of its letters, which are ASCII. -/
def ofText? (text : List Char) : Option LogThreshold :=
  match number? text with
  | some number => numbered[number]?
  | none => named.lookup (String.ofList (text.map Char.toLower))

/-- A record of this level is wanted. -/
def admits (threshold : LogThreshold) (level : LogLevel) : Bool :=
  threshold.least.any level.reaches

/-- The number of levels that are wanted. -/
def breadth (threshold : LogThreshold) : Nat := threshold.least.elim 0 (5 - ·.rank)

/-- The threshold that wants more. -/
def wider (a b : LogThreshold) : LogThreshold := if a.breadth ≤ b.breadth then b else a

/-- The threshold that wants most. -/
def widest (thresholds : List LogThreshold) : LogThreshold := thresholds.foldl wider nothing

end LogThreshold

end ReplicaSync
