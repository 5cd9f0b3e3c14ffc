/-!
# Durations and the clock

A duration is counted in whole seconds and nanoseconds. The clock of a run counts milliseconds: a
wait ends at the first tick that is not before its end. A sleep lasts thirty years at most, however
long it was meant to be; a wait for something to happen has no such bound.
-/

namespace ReplicaSync

/-- A span of time. -/
structure Duration where
  secs : Nat
  nanos : Nat
  nanos_lt : nanos < 1000000000
  deriving DecidableEq, Repr

namespace Duration

/-- Nanoseconds beyond a second carry over. The seconds have 64 bits; longer durations are
refused. -/
def new? (secs nanos : Nat) : Option Duration :=
  if secs + nanos / 1000000000 < Nat.pow 2 64 then
    some ⟨secs + nanos / 1000000000, nanos % 1000000000, Nat.mod_lt _ (by decide)⟩
  else none

def ofMillis (ms : Nat) : Duration := ⟨ms / 1000, ms % 1000 * 1000000, by omega⟩

def isZero (d : Duration) : Bool := d.secs = 0 && d.nanos = 0

/-- Whole milliseconds. -/
def millis (d : Duration) : Nat := d.secs * 1000 + d.nanos / 1000000

/-- Whole milliseconds as a word of 64 bits holds them. -/
def millisWord (d : Duration) : Nat := d.millis % Nat.pow 2 64

/-- The number of ticks that a wait takes: milliseconds, rounded up. -/
def ticks (d : Duration) : Nat := d.secs * 1000 + (d.nanos + 999999) / 1000000

/-- The ticks of the longest sleep: thirty years of 365 days. -/
def longestSleep : Nat := 30 * 365 * 86400 * 1000

/-- The number of ticks that a sleep takes. -/
def sleepTicks (d : Duration) : Nat := min d.ticks longestSleep

end Duration

end ReplicaSync
