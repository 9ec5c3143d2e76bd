import Flotilla.Rpc.Method
import Flotilla.Wire.Message

/-!
# Requests

A request carries the credentials of its sender and the arguments of a call.
-/

namespace Flotilla

/-- The arguments of an operation as they travel. -/
inductive Wire.Task where
  | addUsers (users : List Wire.User)
  | deleteUsers (tag : String) (emails : List String)
  | getUsers (tag : String)
  | addInbound (inbound : Option Wire.Inbound)
  | deleteInbound (tag : String)
  | getStats (pattern : String) (reset : Bool)
  | obtainCert (domain : String)
  | getCerts (domain : String)
  deriving DecidableEq, Inhabited

namespace Wire.Task

def operation : Wire.Task → Operation
  | .addUsers _ => .addUsers
  | .deleteUsers .. => .deleteUsers
  | .getUsers _ => .getUsers
  | .addInbound _ => .addInbound
  | .deleteInbound _ => .deleteInbound
  | .getStats .. => .getStats
  | .obtainCert _ => .obtainCert
  | .getCerts _ => .getCerts

def ofTask : Flotilla.Task → Wire.Task
  | .addUsers users => .addUsers (users.map .ofUser)
  | .deleteUsers tag emails => .deleteUsers tag emails
  | .getUsers tag => .getUsers tag
  | .addInbound inbound => .addInbound (some (.ofInbound inbound))
  | .deleteInbound tag => .deleteInbound tag
  | .getStats pattern reset => .getStats pattern reset
  | .obtainCert domain => .obtainCert domain
  | .getCerts domain => .getCerts domain

/-- The task that arrived; an inbound has to be there and to have a port that fits. -/
def toTask : Wire.Task → Except EngineError Flotilla.Task
  | .addUsers users => .ok (.addUsers (users.map (·.toUser)))
  | .deleteUsers tag emails => .ok (.deleteUsers tag emails)
  | .getUsers tag => .ok (.getUsers tag)
  | .addInbound none => .error (.failed "request carries no inbound")
  | .addInbound (some inbound) => inbound.toInbound.map .addInbound
  | .deleteInbound tag => .ok (.deleteInbound tag)
  | .getStats pattern reset => .ok (.getStats pattern reset)
  | .obtainCert domain => .ok (.obtainCert domain)
  | .getCerts domain => .ok (.getCerts domain)

def toData : Wire.Task → List Datum
  | .addUsers users => [listDatum .user User.toData users]
  | .deleteUsers tag emails => [.text tag, .repeated (emails.map .text)]
  | .getUsers tag => [.text tag]
  | .addInbound inbound => [optionalDatum .inbound Inbound.toData inbound]
  | .deleteInbound tag => [.text tag]
  | .getStats pattern reset => [.text pattern, .bool reset]
  | .obtainCert domain => [.text domain]
  | .getCerts domain => [.text domain]

def ofData? : Operation → List Datum → Option Wire.Task
  | .addUsers, [users] => (list? User.ofData? users).map .addUsers
  | .deleteUsers, [.text tag, emails] => (texts? emails).map (.deleteUsers tag)
  | .getUsers, [.text tag] => some (.getUsers tag)
  | .addInbound, [inbound] => (optional? Inbound.ofData? inbound).map .addInbound
  | .deleteInbound, [.text tag] => some (.deleteInbound tag)
  | .getStats, [.text pattern, .bool reset] => some (.getStats pattern reset)
  | .obtainCert, [.text domain] => some (.obtainCert domain)
  | .getCerts, [.text domain] => some (.getCerts domain)
  | _, _ => none

end Wire.Task

namespace Rpc

open Wire (AuthInfo Datum optionalDatum optional?)

inductive Call where
  | register
  | heartbeat
  | operate (t : Wire.Task)
  deriving DecidableEq, Inhabited

def Call.method : Call → Method
  | .register => .register
  | .heartbeat => .heartbeat
  | .operate t => .operate t.operation

structure Request where
  auth : Option AuthInfo
  call : Call
  deriving DecidableEq, Inhabited

namespace Request

def toData (r : Request) : List Datum :=
  optionalDatum .nodeAuthInfo AuthInfo.toData r.auth ::
    match r.call with
    | .register | .heartbeat => []
    | .operate t => t.toData

def callOfData? : Method → List Datum → Option Call
  | .register, [] => some .register
  | .heartbeat, [] => some .heartbeat
  | .operate o, ds => (Wire.Task.ofData? o ds).map .operate
  | _, _ => none

def ofData? (m : Method) : List Datum → Option Request
  | auth :: ds => do return ⟨← optional? AuthInfo.ofData? auth, ← callOfData? m ds⟩
  | [] => none

end Request

end Rpc

end Flotilla
