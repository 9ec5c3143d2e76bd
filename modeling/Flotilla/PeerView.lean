import Flotilla.Cluster.Registration

/-!
# What a node sees of its cluster

A node keeps one cluster, the peers it knows, and apart from them the center it reports to, so that
the center is contacted like a peer but never evicted and never a target of operations.
-/

namespace Flotilla

/-- A node's own identity, its cluster, and its center. -/
structure PeerView where
  this : Identity
  cluster : Cluster
  center : Roster
  deriving DecidableEq, Inhabited

namespace PeerView

def new (this : Identity) (token : String) : PeerView := ⟨this, .new this.cluster token, .empty⟩

def setCenter (v : PeerView) (center : Identity) (now : Instant) : PeerView :=
  let cleared := v.center.names.foldl (·.erase ·) v.center
  { v with center := cleared.insert center.name (.fixed center now) }

/-- Whether a name belongs to a known live peer. -/
def isValid (v : PeerView) (name : String) (now : Instant) : Bool :=
  (v.cluster.nodes.get? name).any (·.isValidAt now)

def names (v : PeerView) : List String := v.cluster.nodes.names

/-- All known peers in the order of their own names. -/
def allNodes (v : PeerView) : List Node := v.cluster.nodes.nodes.mergeSort fun a b => a.name ≤ b.name

/-- Whether a peer that somebody lists is to be taken up, as far as its identity tells. -/
def accepts (v : PeerView) (peer : Identity) : Bool :=
  peer.name != v.this.name && peer.cluster == v.this.cluster && !v.center.contains peer.name

/-- Takes up one listed peer, if it is new, and counts it. -/
def mergePeer (now : Instant) (v : PeerView × Nat) (peer : Identity) : PeerView × Nat :=
  if v.1.accepts peer then
    match v.1.cluster.nodes.insertIfAbsent? peer.name (.new peer now) with
    | some nodes => ({ v.1 with cluster.nodes := nodes }, v.2 + 1)
    | none => v
  else v

/-- Takes up the peers of a list that are new; gives how many were. -/
def mergePeers (v : PeerView) (peers : List Identity) (now : Instant) : PeerView × Nat :=
  peers.foldl (mergePeer now) (v, 0)

/-- Drops stale peers; the center stays. -/
def evict (v : PeerView) (now : Instant) : PeerView × List String :=
  let (cluster, dropped) := v.cluster.evictStale now
  ({ v with cluster }, dropped)

end PeerView

end Flotilla
