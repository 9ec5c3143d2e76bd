import Flotilla.Directory
import Flotilla.PeerView
import Flotilla.Rpc.Exchange

/-!
# Serving registrations and heartbeats

Requests and replies are sealed with the token of the cluster.  A registration that does not open puts
the name in its header into quarantine.  An end node answers for its own cluster whatever the header
says; a center looks the cluster up.
-/

namespace Flotilla

open Rpc (Answer Reply Request Method Status)

/-- The identity and the token that a request presents, or what to answer if it presents none. -/
def claimOf (r : Request) : Except (ResponseCode × String) (Identity × String) :=
  match r.auth with
  | some ⟨token, some node⟩ =>
    match node.toIdentity with
    | .ok claimed => .ok (claimed, token)
    | .error e => .error (e.code, e.message)
  | _ => .error (AuthError.missingAuthInfo.code, AuthError.missingAuthInfo.message)

namespace Cluster

def answerRegister (c : Cluster) (server : String) (r : Request) (fresh : String) (now : Instant) :
    Cluster × Reply :=
  match claimOf r with
  | .error (code, msg) => (c, .failure .register code msg)
  | .ok (claimed, token) =>
    match c.register claimed token server fresh now with
    | (c, .ok registration) =>
      (c, ⟨registration.code.number, "", .token registration.token⟩)
    | (c, .error e) => (c, .failure .register e.code e.message)

def answerHeartbeat (c : Cluster) (r : Request) (now : Instant) : Cluster × Reply :=
  match claimOf r with
  | .error (code, msg) => (c, .failure .heartbeat code msg)
  | .ok (claimed, token) =>
    match c.heartbeat claimed token now with
    | (c, .ok peers) => (c, .success (.peers (peers.map .ofIdentity)))
    | (c, .error e) => (c, .failure .heartbeat e.code e.message)

def sealReply (c : Cluster) (server : String) (m : Method) (r : Reply) : Envelope :=
  r.close .cluster c.token c.name server m

/-- Answers a sealed registration; `fresh` is the token to issue if one is needed. -/
def serveRegister (c : Cluster) (server : String) (e : Envelope) (fresh : String) (now : Instant) :
    Cluster × Answer :=
  match Request.open? c.token .register e with
  | .error fault =>
    (c.isolate ⟨e.sender, "", 0, e.cluster⟩ now,
      .error ⟨.unauthenticated,
        "cannot open registration from " ++ e.sender ++ ": " ++ fault.message⟩)
  | .ok r =>
    let (c, reply) := c.answerRegister server r fresh now
    (c, .ok (c.sealReply server .register reply))

def serveHeartbeat (c : Cluster) (server : String) (e : Envelope) (now : Instant) :
    Cluster × Answer :=
  match Request.open? c.token .heartbeat e with
  | .error fault =>
    (c, .error ⟨.unauthenticated,
      "cannot open heartbeat from " ++ e.sender ++ ": " ++ fault.message⟩)
  | .ok r =>
    let (c, reply) := c.answerHeartbeat r now
    (c, .ok (c.sealReply server .heartbeat reply))

end Cluster

/-- Answers a sealed registration at an end node. -/
def PeerView.serveRegister (v : PeerView) (e : Envelope) (fresh : String) (now : Instant) :
    PeerView × Answer :=
  let (cluster, answer) := v.cluster.serveRegister v.this.name e fresh now
  ({ v with cluster }, answer)

def PeerView.serveHeartbeat (v : PeerView) (e : Envelope) (now : Instant) : PeerView × Answer :=
  let (cluster, answer) := v.cluster.serveHeartbeat v.this.name e now
  ({ v with cluster }, answer)

namespace Directory

/-- The answer to an envelope whose header names no cluster that is served. -/
def unknownCluster (e : Envelope) : Status := ⟨.notFound, "unknown cluster " ++ e.cluster⟩

def serveRegister (d : Directory) (e : Envelope) (fresh : String) (now : Instant) :
    Directory × Answer :=
  match d.get? e.cluster with
  | none => (d, .error (unknownCluster e))
  | some c =>
    let (c, answer) := c.serveRegister d.name e fresh now
    (d.put e.cluster c, answer)

def serveHeartbeat (d : Directory) (e : Envelope) (now : Instant) : Directory × Answer :=
  match d.get? e.cluster with
  | none => (d, .error (unknownCluster e))
  | some c =>
    let (c, answer) := c.serveHeartbeat d.name e now
    (d.put e.cluster c, answer)

end Directory

end Flotilla
