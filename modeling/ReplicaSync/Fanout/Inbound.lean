import ReplicaSync.Fanout.Line

/-!
# Bytes from the server

Bytes arrive in pieces of any size and are kept until a line is complete, so what is read does not
depend on how they were cut. A line break ends a line, and so does the end of the connection if
something is left. A line that is no text ends the connection.
-/

namespace ReplicaSync.Fanout

/-- The bytes that have arrived and were not read, and whether more can come. -/
structure Inbound where
  bytes : List UInt8
  ended : Bool
  deriving DecidableEq, Repr

/-- What the next read gives. -/
inductive LineRead where
  /-- Nothing is complete. -/
  | wait
  | line (text : List Char)
  /-- The server hung up, and all was read. -/
  | done
  | garbled
  deriving DecidableEq, Repr

namespace Inbound

def empty : Inbound := ⟨[], false⟩

def receive (inbound : Inbound) (bytes : List UInt8) : Inbound :=
  { inbound with bytes := inbound.bytes ++ bytes }

def hangUp (inbound : Inbound) : Inbound := { inbound with ended := true }

/-- The byte that ends a line. -/
def lineBreak : UInt8 := 0x0A

/-- A line as text. The carriage return before its line break is not part of it. -/
def readBytes (line : List UInt8) (broken : Bool) : LineRead :=
  match Text.Utf8.decode? line with
  | none => .garbled
  | some text =>
    let line := text.toList
    .line (if broken && line.getLast? = some '\r' then line.dropLast else line)

/-- Reads the next line, and what is left after it. -/
def next (inbound : Inbound) : LineRead × Inbound :=
  match inbound.bytes.dropWhile (· ≠ lineBreak) with
  | _ :: rest =>
    (readBytes (inbound.bytes.takeWhile (· ≠ lineBreak)) true, { inbound with bytes := rest })
  | [] =>
    if !inbound.ended then (.wait, inbound)
    else if inbound.bytes = [] then (.done, inbound)
    else (readBytes inbound.bytes false, { inbound with bytes := [] })

end Inbound

end ReplicaSync.Fanout
