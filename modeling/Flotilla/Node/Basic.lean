import Flotilla.Node.Identity
import Flotilla.Time

/-!
# Records about peers

A record holds what is known about one peer: its identity, the token it has to present to us, the
token we present to it, and the times of its signals.  A peer is alive while one of its signals is
younger than a fixed timeout.
-/

namespace Flotilla

/-- How long a signal keeps a peer alive. -/
def heartbeatTimeout : Span := Span.seconds 60

/-- What is known about one peer.  An empty token stands for none. -/
structure Node where
  identity : Identity
  /-- The token that the peer has to present to us. -/
  inToken : String
  /-- The token that we present to the peer. -/
  outToken : String
  /-- When the peer last proved itself to us. -/
  heardAt : Option Instant
  /-- When we last proved ourselves to the peer. -/
  reportedAt : Option Instant
  createdAt : Instant
  /-- The peer comes from the configuration and is never dropped. -/
  isLocal : Bool
  deriving DecidableEq, Inhabited

/-- Whether an instant lies less than the timeout before another one. -/
def Instant.isRecent (signal now : Instant) : Bool := now - signal < (heartbeatTimeout : Int)

namespace Node

/-! ### New records -/

/-- A peer learned at runtime, without tokens. -/
def new (identity : Identity) (now : Instant) : Node where
  identity := identity
  inToken := ""
  outToken := ""
  heardAt := none
  reportedAt := none
  createdAt := now
  isLocal := false

/-- A peer from the configuration. -/
def fixed (identity : Identity) (now : Instant) : Node := { new identity now with isLocal := true }

/-- A peer that just registered and was issued a token. -/
def registered (identity : Identity) (token : String) (now : Instant) : Node :=
  { new identity now with inToken := token, heardAt := some now }

/-! ### Questions -/

def name (n : Node) : String := n.identity.name

/-- One of the signals is recent. -/
def isValidAt (n : Node) (now : Instant) : Bool :=
  n.createdAt.isRecent now || n.heardAt.any (·.isRecent now) || n.reportedAt.any (·.isRecent now)

/-- The peer recently proved itself with the token that it was issued. -/
def registeredLocalAt (n : Node) (now : Instant) : Bool :=
  n.inToken != "" && n.heardAt.any (·.isRecent now)

/-- We recently proved ourselves with the token that the peer issued. -/
def registeredRemoteAt (n : Node) (now : Instant) : Bool :=
  n.outToken != "" && n.reportedAt.any (·.isRecent now)

/-- The record survives an eviction. -/
def survivesAt (n : Node) (now : Instant) : Bool := n.isValidAt now || n.isLocal

end Node

end Flotilla
