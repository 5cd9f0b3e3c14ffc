import ReplicaSync.Pass

/-!
# Scripted pipelines

A script says for each pass how its two phases go: whether a phase waits for a permit, how long it
takes after that, and how it ends. Where the script says nothing, a phase ends at once and finds
nothing.
-/

namespace ReplicaSync

/-- How a phase ends. -/
inductive PhaseEnding (α : Type) where
  | ok (result : α)
  | error (cause : AdapterError)
  | panic

/-- How a phase goes. -/
structure PhaseScript (α : Type) where
  /-- It waits for a permit first. -/
  blocks : Bool
  /-- Then it takes this long, in milliseconds. -/
  delay : Nat
  ending : PhaseEnding α

/-- How the phases of a pass go. -/
structure PassScript where
  pull : PhaseScript PullResult
  push : PhaseScript PushResult

namespace PassScript

def quietPull : PhaseScript PullResult := ⟨false, 0, .ok .noChanges⟩

def quietPush : PhaseScript PushResult := ⟨false, 0, .ok .noChanges⟩

def quiet : PassScript := ⟨quietPull, quietPush⟩

/-- The script of the pass with this number, counted from zero. -/
def forPass (passes : List PassScript) (number : Nat) : PassScript := passes[number]?.getD quiet

end PassScript

/-! ### A pass without a coordinator -/

/-- What a scripted pass did. -/
structure PassReplay where
  outcome : PassOutcome
  calls : List String
  records : List LogRecord

/-- Runs one scripted pass from start to end, however long it takes; there is no outcome if a phase
panics. -/
def PassScript.replay (script : PassScript) : Option PassReplay :=
  match script.pull.ending with
  | .panic => none
  | .error cause => some ⟨.failed (.pull cause), ["pull"], []⟩
  | .ok pulled =>
    match script.push.ending with
    | .panic => none
    | .error cause => some ⟨.failed (.push cause), ["pull", "push"], [Pass.pullFinished pulled]⟩
    | .ok pushed =>
      some ⟨.ofPush pushed, ["pull", "push"],
        [Pass.pullFinished pulled, Pass.pushFinished pushed]⟩

/-- Runs the first passes of a script; nothing is left of them if one panics. -/
def PassScript.replayAll (passes : List PassScript) (count : Nat) : Option (List PassReplay) :=
  (List.range count).mapM fun number => (forPass passes number).replay

end ReplicaSync
