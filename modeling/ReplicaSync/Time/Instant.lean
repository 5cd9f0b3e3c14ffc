import ReplicaSync.Time.Date

/-!
# Instants

An instant is a number of seconds since 1970 and of nanoseconds into the second. The seconds span
the years from -262143 to 262142. A leap second is the second billion of nanoseconds of the last
second of a minute.
-/

namespace ReplicaSync

/-- A point in time. -/
structure Instant where
  secs : Int
  nanos : Nat
  inRange : -8334601228800 ≤ secs ∧ secs ≤ 8210266876799
  nanosBound : nanos < 1000000000 ∨ secs % 60 = 59 ∧ nanos < 2000000000
  deriving DecidableEq, Repr

namespace Instant

/-- The instant with these parts, if there is one. -/
def of? (secs : Int) (nanos : Nat) : Option Instant :=
  if h : (-8334601228800 ≤ secs ∧ secs ≤ 8210266876799) ∧
      (nanos < 1000000000 ∨ secs % 60 = 59 ∧ nanos < 2000000000) then
    some ⟨secs, nanos, h.1, h.2⟩
  else none

theorem of?_self (t : Instant) : of? t.secs t.nanos = some t := by
  simp [of?, t.inRange, t.nanosBound]

example : Date.toDays ⟨-262143, 1, 1⟩ * 86400 = -8334601228800 := by decide

example : Date.toDays ⟨262142, 12, 31⟩ * 86400 + 86399 = 8210266876799 := by decide

/-- The day. -/
def date (t : Instant) : Date := Date.ofDays (t.secs / 86400)

/-- The second of the day, a leap second not counted. -/
def secondOfDay (t : Instant) : Nat := (t.secs % 86400).toNat

def hour (t : Instant) : Nat := t.secondOfDay / 3600

def minute (t : Instant) : Nat := t.secondOfDay / 60 % 60

/-- The second of the minute; 60 in a leap second. -/
def second (t : Instant) : Nat :=
  t.secondOfDay % 60 + (if t.nanos < 1000000000 then 0 else 1)

/-- The nanoseconds into the second, or into the leap second. -/
def subsecond (t : Instant) : Nat := t.nanos % 1000000000

end Instant

end ReplicaSync
