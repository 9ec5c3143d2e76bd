import Flotilla.PeerView
import Flotilla.Rpc.Exchange

/-!
# Contacts

In every heartbeat cycle a node contacts each peer and its center: by a heartbeat if it holds a live
token of the peer, and else by a registration.  A contact works with a snapshot of the record; its
outcome is applied to the record that is stored under the name when the reply is there.
-/

namespace Flotilla

open Rpc (CallError Request Reply Method)

/-- Which roster a contact belongs to. -/
inductive Side where
  | peers
  | center
  deriving DecidableEq, Repr, Inhabited

/-- A contact with the record it was planned for. -/
structure Contact where
  side : Side
  node : Node
  deriving DecidableEq, Inhabited

/-- What a contact brought: a token, if it was a registration, and the peers that were listed. -/
structure News where
  issued : Option String
  peers : List Identity
  deriving DecidableEq, Inhabited

namespace Contact

def method (c : Contact) (now : Instant) : Method :=
  if c.node.registeredRemoteAt now then .heartbeat else .register

/-- The request of a contact: a heartbeat presents the token of the peer, and a registration that of
the cluster. -/
def request (c : Contact) (this : Identity) (clusterToken : String) (now : Instant) : Request :=
  if c.node.registeredRemoteAt now then ⟨some (.of c.node.outToken this), .heartbeat⟩
  else ⟨some (.of clusterToken this), .register⟩

def reachable (peers : List Wire.Identity) : List Identity :=
  peers.filterMap fun p => p.toIdentity.toOption

def news (r : Reply) : Except CallError News :=
  match r.body with
  | .token token =>
    if r.code = ResponseCode.ok.number ∨ r.code = ResponseCode.alreadyRegistered.number then
      .ok ⟨some token, []⟩
    else .error r.rejection
  | .peers ps => if r.code = 0 then .ok ⟨none, reachable ps⟩ else .error r.rejection
  | _ => .error r.rejection

/-- The record of a peer after a contact succeeded. -/
def succeeded (news : News) (now : Instant) (node : Node) : Node :=
  { node with outToken := news.issued.getD node.outToken, reportedAt := some now }

/-- The record of a peer after a contact failed; a local peer is kept in touch with. -/
def failed (now : Instant) (node : Node) : Node :=
  { node with
    outToken := ""
    reportedAt := if node.isLocal then some now else node.reportedAt }

end Contact

namespace PeerView

def roster (v : PeerView) : Side → Roster
  | .peers => v.cluster.nodes
  | .center => v.center

/-- Changes a record in the roster of a side. -/
def updateSide (v : PeerView) (side : Side) (name : String) (f : Node → Node) : PeerView :=
  match side with
  | .peers => { v with cluster.nodes := v.cluster.nodes.update name f }
  | .center => { v with center := v.center.update name f }

/-- A contact for each record of a side that is not stored under the node's own name. -/
def contactsIn (v : PeerView) (side : Side) : List Contact :=
  ((v.roster side).entries.toList.filter fun e => e.1 != v.this.name).map fun e => ⟨side, e.2⟩

/-- The contacts of a cycle: all peers and the center, but never the node itself. -/
def contacts (v : PeerView) : List Contact := v.contactsIn .peers ++ v.contactsIn .center

def settle (v : PeerView) (c : Contact) (outcome : Except CallError News) (now : Instant) :
    PeerView :=
  let name := c.node.name
  match outcome with
  | .ok news => ((v.updateSide c.side name (Contact.succeeded news now)).mergePeers news.peers now).1
  | .error _ => v.updateSide c.side name (Contact.failed now)

end PeerView

end Flotilla
