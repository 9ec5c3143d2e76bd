import Flotilla.Cluster.Rejection
import Flotilla.Roster

/-!
# Clusters

A cluster has a name and a token, a roster of the nodes that belong to it, and a quarantine for those
that tried to join without the right credentials.  Requests are authenticated against the roster; the
quarantine is never consulted.  The clock is an argument of every operation.
-/

namespace Flotilla

/-- The credentials of a cluster, its nodes, and the nodes that failed to prove they belong to it. -/
structure Cluster where
  name : String
  token : String
  nodes : Roster
  quarantine : Roster
  deriving DecidableEq, Inhabited

namespace Cluster

def new (name token : String) : Cluster := ⟨name, token, .empty, .empty⟩

/-! ### Quarantine -/

/-- Puts a node into quarantine; one that is there already starts anew. -/
def isolate (c : Cluster) (who : Identity) (now : Instant) : Cluster :=
  { c with quarantine := c.quarantine.insert who.name (.new who now) }

/-- Takes a name out of quarantine. -/
def release (c : Cluster) (name : String) : Cluster :=
  { c with quarantine := c.quarantine.erase name }

/-! ### Authentication -/

/-- What speaks against a request with this identity and token. -/
def credentialFault? (node : Node) (claimed : Identity) (token : String) (now : Instant) :
    Option AuthError :=
  if node.identity ≠ claimed then some (.metaMismatch claimed.name)
  else if node.inToken = "" ∨ node.inToken ≠ token then some (.wrongToken claimed.name)
  else if node.heardAt.any fun t => !t.isRecent now then some (.tokenTimeout claimed.name)
  else none

/-- The record of a peer after it proved itself. -/
def heard (now : Instant) (node : Node) : Node := { node with heardAt := some now }

/-- Checks the credentials of a request.  Success counts as a signal of the peer, takes its name out
of quarantine, and gives its record. -/
def authenticate (c : Cluster) (claimed : Identity) (token : String) (now : Instant) :
    Cluster × Except AuthError Node :=
  let decide (node : Node) : Node × Except AuthError Node :=
    match credentialFault? node claimed token now with
    | some e => (node, .error e)
    | none => (heard now node, .ok (heard now node))
  match c.nodes.modify? claimed.name decide with
  | none => (c, .error (.nodeNotExist claimed.name))
  | some (nodes, .error e) => ({ c with nodes }, .error e)
  | some (nodes, .ok node) => ({ c with nodes }.release claimed.name, .ok node)

/-! ### Heartbeats -/

/-- The live peers that a node should know about. -/
def peersFor (c : Cluster) (name : String) (now : Instant) : List Identity :=
  (c.nodes.select fun n => n.name != name && n.isValidAt now).map (·.identity)

/-- Authenticates a heartbeat and gives the live peers of its sender. -/
def heartbeat (c : Cluster) (claimed : Identity) (token : String) (now : Instant) :
    Cluster × Except HeartbeatError (List Identity) :=
  match c.authenticate claimed token now with
  | (c, .ok _) => (c, .ok (c.peersFor claimed.name now))
  | (c, .error (.nodeNotExist name)) => (c, .error (.nodeDropped name))
  | (c, .error e) => (c, .error (.auth e))

/-! ### Eviction -/

/-- Drops stale nodes that are not local and stale names in quarantine; gives the dropped nodes. -/
def evictStale (c : Cluster) (now : Instant) : Cluster × List String :=
  let (nodes, dropped) := c.nodes.filter (·.survivesAt now)
  let (quarantine, _) := c.quarantine.filter (·.isValidAt now)
  ({ c with nodes, quarantine }, dropped)

end Cluster

end Flotilla
