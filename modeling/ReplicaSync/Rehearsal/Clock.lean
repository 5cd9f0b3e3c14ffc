import ReplicaSync.Rehearsal.Response

/-!
# The clock of a rehearsal

Time passes from one timer to the next. Timers that are due at the same moment go off in the order
in which they were set, and the callbacks that they spawn begin after them.
-/

namespace ReplicaSync.Rehearsal

/-- Lets all callbacks begin that were spawned. -/
def runCallbacks : Nat → Rehearsal → Rehearsal
  | 0, r => r
  | left + 1, r => runCallbacks left (r.perform .callback)

/-- The client of the desktop tries to connect, in vain. -/
def tryConnect (r : Rehearsal) : Rehearsal :=
  match r.adapters with
  | .desktop (some client) =>
    let client := (client.elapse (r.world.now - client.now)).wake
    let (client, acts) := client.unreachable Network.offline.refusal
    let r := r.withClient client acts
    match client.link with
    | .sleeping wakeAt => r.setTimer wakeAt .reconnect
    | _ => r
  | _ => r

/-- A timer goes off. -/
def goOff (r : Rehearsal) (timer : Timer) : Rehearsal :=
  match timer.kind with
  | .wake task => r.perform (.wake task)
  | .phase task =>
    match r.plan? task with
    | some plan => r.perform plan.ending
    | none => r
  | .quietPeriod => r.perform .settle
  | .reconnect => r.tryConnect

/-- The timer that goes off next. -/
def nextTimer? (r : Rehearsal) : Option Timer :=
  r.timers.foldl (fun first timer =>
    match first with
    | some earlier => if timer.isBefore earlier then some timer else some earlier
    | none => some timer) none

/-- Lets the timers go off that are due, at most so many. -/
def runTimers : Nat → Rehearsal → Rehearsal
  | 0, r => r
  | left + 1, r =>
    match r.nextTimer? with
    | some timer =>
      if timer.due ≤ r.world.now then
        runTimers left ({ r with timers := r.timers.erase timer }.goOff timer)
      else r
    | none => r

/-- Everything happens that is due now: the timers go off, then the spawned callbacks begin. -/
def runDue (r : Rehearsal) : Rehearsal :=
  let r := runTimers r.timers.length r
  runCallbacks r.world.spawned r

/-- Lets time pass from one timer to the next. Each goes off at least a millisecond after the one
before, so there are at most as many stops as milliseconds. -/
def advanceWithin : Nat → Rehearsal → Nat → Rehearsal
  | 0, r, _ => r
  | stops + 1, r, target =>
    match r.nextTimer? with
    | some timer =>
      if timer.due ≤ target then
        advanceWithin stops ((r.move (.elapse (timer.due - r.world.now))).1.runDue) target
      else (r.move (.elapse (target - r.world.now))).1
    | none => (r.move (.elapse (target - r.world.now))).1

def advance (r : Rehearsal) (ms : Nat) : Rehearsal :=
  advanceWithin (ms + 1) r (r.world.now + ms)

end ReplicaSync.Rehearsal
