import ReplicaSync.Failure
import ReplicaSync.Text.Lowercase

/-!
# Log levels

Five levels in order of weight. A level is read from its name in any case; `warning` is a second
name of `warn`.
-/

namespace ReplicaSync

/-- How much a log entry matters, from least to most. -/
inductive LogLevel where
  | trace
  | debug
  | info
  | warn
  | error
  deriving DecidableEq, Repr, Inhabited

namespace LogLevel

def rank : LogLevel → Nat
  | .trace => 0
  | .debug => 1
  | .info => 2
  | .warn => 3
  | .error => 4

def compare (a b : LogLevel) : Ordering := Ord.compare a.rank b.rank

/-- The level `a` weighs at least as much as `least`. -/
def reaches (a least : LogLevel) : Bool := least.rank ≤ a.rank

def name : LogLevel → String
  | .trace => "trace"
  | .debug => "debug"
  | .info => "info"
  | .warn => "warn"
  | .error => "error"

/-- The name in capitals, as log lines show it. -/
def heading : LogLevel → String
  | .trace => "TRACE"
  | .debug => "DEBUG"
  | .info => "INFO"
  | .warn => "WARN"
  | .error => "ERROR"

/-- The name in JSON. -/
def title : LogLevel → String
  | .trace => "Trace"
  | .debug => "Debug"
  | .info => "Info"
  | .warn => "Warn"
  | .error => "Error"

/-- The levels by the names under which they are read. -/
def named : List (String × LogLevel) :=
  [("trace", .trace), ("debug", .debug), ("info", .info), ("warn", .warn), ("warning", .warn),
   ("error", .error)]

/-- The levels by their names in JSON. -/
def titled : List (String × LogLevel) :=
  [("Trace", .trace), ("Debug", .debug), ("Info", .info), ("Warn", .warn), ("Error", .error)]

/-- Reads a name in any case; the complaint shows it in small letters. -/
def ofText (text : String) : Except AdapterError LogLevel :=
  let name := Text.lowercase text
  match named.lookup name with
  | some level => .ok level
  | none => .error (.operationFailed s!"Unknown log level: {name}")

end LogLevel

end ReplicaSync
