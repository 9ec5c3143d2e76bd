import Flotilla.PeerView
import Flotilla.Rpc.Exchange

/-!
# Serving operations

Requests and replies are sealed with the token that was issued to the sender.  A request is carried
out only if it opens under that token and the credentials inside it are those of the sender; every
other request is refused, and changes nothing.
-/

namespace Flotilla

open Rpc (Answer Reply Request Method Status)

namespace PeerView

def issuedToken? (v : PeerView) (sender : String) : Option String :=
  match v.cluster.nodes.get? sender with
  | some node => if node.inToken = "" then none else some node.inToken
  | none => none

/-- The identity and the token inside a request, which must be those of the sender in the header. -/
def presented (sender : String) (r : Request) : Except AuthError (Identity × String) :=
  match r.auth with
  | some ⟨token, some node⟩ =>
    match node.toIdentity with
    | .ok claimed =>
      if claimed.name = sender then .ok (claimed, token) else .error (.metaMismatch sender)
    | .error _ => .error (.metaMismatch sender)
  | _ => .error .missingAuthInfo

def authenticateSender (v : PeerView) (sender : String) (r : Request) (now : Instant) :
    PeerView × Except AuthError Node :=
  match presented sender r with
  | .error e => (v, .error e)
  | .ok (claimed, token) =>
    let (cluster, result) := v.cluster.authenticate claimed token now
    ({ v with cluster }, result)

end PeerView

variable {σ : Type} [ProxyEngine σ] [CertManager σ]

/-- The reply to a task that was carried out or failed. -/
def Operation.replyTo (o : Operation) : Except EngineError Outcome → Reply
  | .ok outcome => .success (.ofOutcome outcome)
  | .error fault => .failure (.operate o) .operationFailed fault.message

/-- Carries out the call of an authenticated request. -/
def Rpc.Request.perform (r : Request) (o : Operation) (now : Instant) (engine : σ) : σ × Reply :=
  match r.call with
  | .operate t =>
    match t.toTask with
    | .error fault => (engine, o.replyTo (.error fault))
    | .ok task =>
      let (engine, result) := task.run now engine
      (engine, o.replyTo result)
  | _ => (engine, .failure (.operate o) .operationFailed "")

def PeerView.serveOperation (v : PeerView) (engine : σ) (o : Operation) (e : Envelope) (now : Instant) :
    PeerView × σ × Answer :=
  match v.issuedToken? e.sender with
  | none => (v, engine, .error ⟨.unauthenticated, "no token issued to " ++ e.sender⟩)
  | some token =>
    match Request.open? token (.operate o) e with
    | .error fault =>
      (v, engine, .error ⟨.unauthenticated,
        "cannot open request from " ++ e.sender ++ ": " ++ fault.message⟩)
    | .ok r =>
      let answer (reply : Reply) : Answer :=
        .ok (reply.close .node token v.cluster.name v.this.name (.operate o))
      match v.authenticateSender e.sender r now with
      | (v, .error fault) => (v, engine, answer (.failure (.operate o) fault.code fault.message))
      | (v, .ok _) =>
        let (engine, reply) := r.perform o now engine
        (v, engine, answer reply)

end Flotilla
