/-!
# The network of a rehearsal

Either the machine has no network at all, and no address can be reached or opened, or it has the
loopback, on which a server can listen.
-/

namespace ReplicaSync

/-- What a rehearsal has for a network. -/
inductive Network where
  | offline
  | loopback
  deriving DecidableEq, Repr

/-- Why a connection cannot be made to an address at which nobody listens. -/
def Network.refusal : Network → String
  | .offline => "Network is unreachable (os error 101)"
  | .loopback => "Connection refused (os error 111)"

end ReplicaSync
