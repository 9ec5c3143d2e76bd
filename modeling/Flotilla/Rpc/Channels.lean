import Flotilla.Endpoint.Basic
import Flotilla.Rpc.Exchange

/-!
# Open channels

A channel to an endpoint stays open for later calls until one of them ends in a way that says it may be
broken; the next call opens a new one.
-/

namespace Flotilla.Rpc

/-- The endpoints to which a channel is open. -/
structure Channels where
  endpoints : List Endpoint
  deriving DecidableEq, Inhabited

namespace Channels

def empty : Channels := ⟨[]⟩

def contains (c : Channels) (e : Endpoint) : Bool := c.endpoints.contains e

def size (c : Channels) : Nat := c.endpoints.length

/-- Keeps a new channel, unless there is one already. -/
def keep (c : Channels) (e : Endpoint) : Channels :=
  if c.contains e then c else ⟨e :: c.endpoints⟩

def forget (c : Channels) (e : Endpoint) : Channels := ⟨c.endpoints.filter (· ≠ e)⟩

/-- The channels after a call over the one to an endpoint was answered. -/
def afterAnswer (c : Channels) (e : Endpoint) : Answer → Channels
  | .error s => if s.code.breaksChannel then c.forget e else c
  | .ok _ => c

end Channels

/-- The endpoint to call for a node, unless its address names none. -/
def endpointOf (target : Identity) : Except Status Endpoint :=
  target.endpoint.mapError fun e =>
    ⟨.invalidArgument, "bad address " ++ target.address ++ ": " ++ e.message⟩

/-- The answer to a call for which no channel can be opened. -/
def unreachable (target : Identity) (reason : String) : Status :=
  ⟨.unavailable, "failed to connect to " ++ target.address ++ ": " ++ reason⟩

/-- The answer to a call over a channel at whose end nobody listens. -/
def refused : Status := ⟨.unavailable, "connection refused"⟩

/-- The answer to a call of a method that is not served. -/
def unimplemented : Status := ⟨.unimplemented, ""⟩

end Flotilla.Rpc
