import ReplicaSync.Failure
import ReplicaSync.Json.Schema
import ReplicaSync.Text.Blank

/-!
# The endpoint for announcements

The server through which replicas tell each other about changes is given by host and port. A host
of nothing but white space and the port zero are refused, the host first.
-/

namespace ReplicaSync

/-- Where announcements go. -/
structure Endpoint where
  host : String
  port : UInt16
  deriving DecidableEq, Repr

namespace Endpoint

def validate (endpoint : Endpoint) : Except ConfigFault Unit :=
  if Text.isBlankText endpoint.host then .error .hostBlank
  else if endpoint.port = 0 then .error .portZero
  else .ok ()

/-- Host and port in one text. -/
def address (endpoint : Endpoint) : String := s!"{endpoint.host}:{endpoint.port.toNat}"

def toJson (endpoint : Endpoint) : Json :=
  .obj [("host", .str endpoint.host), ("port", .ofNat endpoint.port.toNat)]

def ofJson? (j : Json) : Option Endpoint := do
  match ← j.fields? ["host", "port"] with
  | [host, port] =>
    let host ← Json.required? Json.str? host
    let port ← Json.required? (Json.nat? 16) port
    return ⟨host, port.toUInt16⟩
  | _ => none

end Endpoint

end ReplicaSync
