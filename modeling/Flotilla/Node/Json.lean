import Flotilla.Json.Basic
import Flotilla.Node.Static

/-!
# Records as JSON
-/

namespace Flotilla

def Identity.toJson (i : Identity) : Json :=
  .ofFields [("name", .text i.name), ("host", .text i.host), ("port", .int i.port.toNat),
    ("cluster", .text i.cluster)]

def StaticNode.toJson (e : StaticNode) : Json :=
  .ofFields [("name", .text e.name), ("host", .text e.host), ("port", .int e.port.toNat)]

def Instant.millisSince (start t : Instant) : Int := (t - start) / Span.millis 1

/-- A record with its state at an instant.  Times are milliseconds since `start`, and `token` says how a
token is written. -/
def Node.toJson (token : String → String) (start now : Instant) (n : Node) : Json :=
  let time (t : Instant) : Json := .int (Instant.millisSince start t)
  let optional (t : Option Instant) : Json := (t.map time).getD .null
  .ofFields [("name", .text n.name), ("host", .text n.identity.host),
    ("port", .int n.identity.port.toNat), ("cluster", .text n.identity.cluster),
    ("in_token", .text (token n.inToken)), ("out_token", .text (token n.outToken)),
    ("get_heartbeat", optional n.heardAt), ("report_heartbeat", optional n.reportedAt),
    ("created", time n.createdAt), ("local", .bool n.isLocal), ("valid", .bool (n.isValidAt now)),
    ("registered_local", .bool (n.registeredLocalAt now)),
    ("registered_remote", .bool (n.registeredRemoteAt now))]

end Flotilla
