import Flotilla.EndNode
import Flotilla.Rpc.Channels
import Flotilla.Service.Membership
import Flotilla.Service.Operations

/-!
# Serving all methods

End nodes serve membership and operations; centers serve membership alone.
-/

namespace Flotilla

open Rpc (Answer Method)

/-- Answers a sealed call at an end node; `fresh` is the token to issue if one is needed. -/
def EndNode.serve {σ : Type} [ProxyEngine σ] [CertManager σ] (n : EndNode σ) (m : Method) (e : Envelope)
    (fresh : String) (now : Instant) : EndNode σ × Answer :=
  match m with
  | .register =>
    let (view, answer) := n.view.serveRegister e fresh now
    ({ n with view }, answer)
  | .heartbeat =>
    let (view, answer) := n.view.serveHeartbeat e now
    ({ n with view }, answer)
  | .operate o =>
    let (view, engine, answer) := n.view.serveOperation n.engine o e now
    ({ n with view, engine }, answer)

/-- Answers a sealed call at a center; `fresh` is the token to issue if one is needed. -/
def Directory.serve (d : Directory) (m : Method) (e : Envelope) (fresh : String) (now : Instant) :
    Directory × Answer :=
  match m with
  | .register => d.serveRegister e fresh now
  | .heartbeat => d.serveHeartbeat e now
  | .operate _ => (d, .error Rpc.unimplemented)

end Flotilla
