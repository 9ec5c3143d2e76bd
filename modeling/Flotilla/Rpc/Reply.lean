import Flotilla.Rpc.Method
import Flotilla.Wire.Message

/-!
# Replies

A reply carries a code, a message, and the data that the call asked for.
-/

namespace Flotilla.Rpc

open Wire (Datum listDatum list?)

/-- What a reply carries besides its code and message. -/
inductive Body where
  | nothing
  | token (s : String)
  | peers (ps : List Wire.Identity)
  | users (us : List Wire.User)
  | stats (ss : List Stat)
  | certs (cs : List Cert)
  deriving DecidableEq, Inhabited

namespace Body

/-- The empty data of a reply to a method. -/
def blank : Method → Body
  | .register => .token ""
  | .heartbeat => .peers []
  | .operate .getUsers => .users []
  | .operate .getStats => .stats []
  | .operate .getCerts => .certs []
  | .operate _ => .nothing

def toData : Body → List Datum
  | .nothing => []
  | .token s => [.text s]
  | .peers ps => [listDatum .nodeIdentity Wire.Identity.toData ps]
  | .users us => [listDatum .user Wire.User.toData us]
  | .stats ss => [listDatum .stat Stat.toData ss]
  | .certs cs => [listDatum .cert Cert.toData cs]

def ofData? : Method → List Datum → Option Body
  | .register, [.text s] => some (.token s)
  | .heartbeat, [ps] => (list? Wire.Identity.ofData? ps).map .peers
  | .operate .getUsers, [us] => (list? Wire.User.ofData? us).map .users
  | .operate .getStats, [ss] => (list? Stat.ofData? ss).map .stats
  | .operate .getCerts, [cs] => (list? Cert.ofData? cs).map .certs
  | .operate .addUsers, [] | .operate .deleteUsers, [] | .operate .addInbound, []
  | .operate .deleteInbound, [] | .operate .obtainCert, [] => some .nothing
  | _, _ => none

/-- The data that an outcome is sent back as. -/
def ofOutcome : Outcome → Body
  | .done => .nothing
  | .users us => .users (us.map .ofUser)
  | .stats ss => .stats ss
  | .certs cs => .certs cs

def toOutcome : Body → Outcome
  | .users us => .users (us.map (·.toUser))
  | .stats ss => .stats ss
  | .certs cs => .certs cs
  | .nothing | .token _ | .peers _ => .done

end Body

structure Reply where
  code : Int32
  msg : String
  body : Body
  deriving DecidableEq, Inhabited

namespace Reply

/-- A reply with data and without a message. -/
def success (body : Body) : Reply := ⟨ResponseCode.ok.number, "", body⟩

/-- A reply without data. -/
def failure (m : Method) (code : ResponseCode) (msg : String) : Reply := ⟨code.number, msg, .blank m⟩

def toData (r : Reply) : List Datum := .int32 r.code :: .text r.msg :: r.body.toData

def ofData? (m : Method) : List Datum → Option Reply
  | .int32 code :: .text msg :: ds => (Body.ofData? m ds).map (⟨code, msg, ·⟩)
  | _ => none

end Reply

end Flotilla.Rpc
