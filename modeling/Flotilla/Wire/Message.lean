import Flotilla.Wire.Datum
import Flotilla.Cluster.Rejection
import Flotilla.Engine.Basic
import Flotilla.Json.Parser
import Flotilla.Json.Printer

/-!
# The parts of messages

Identities, credentials, users, inbounds, counters and certificates as they travel between nodes, and
what they stand for.  A port travels as a number of 32 bits, and an opaque JSON value as its text.
-/

namespace Flotilla.Wire

/-! ### Fields that hold messages -/

def optionalDatum {α : Type} (t : MessageType) (data : α → List Datum) : Option α → Datum
  | none => .absent
  | some a => .message t (data a)

/-- Reads a message that may be absent. -/
def optional? {α : Type} (ofData? : List Datum → Option α) : Datum → Option (Option α)
  | .absent => some none
  | .message _ ds => (ofData? ds).map some
  | _ => none

def listDatum {α : Type} (t : MessageType) (data : α → List Datum) (xs : List α) : Datum :=
  .repeated (xs.map fun x => .message t (data x))

/-- Reads one message of a list. -/
def item? {α : Type} (ofData? : List Datum → Option α) : Datum → Option α
  | .message _ ds => ofData? ds
  | _ => none

/-- Reads a list of messages. -/
def list? {α : Type} (ofData? : List Datum → Option α) : Datum → Option (List α)
  | .repeated ds => ds.mapM (item? ofData?)
  | _ => none

/-- Reads one text of a list. -/
def textItem? : Datum → Option String
  | .text s => some s
  | _ => none

def texts? : Datum → Option (List String)
  | .repeated ds => ds.mapM textItem?
  | _ => none

/-! ### Identities and credentials -/

/-- An identity as it travels; the address may be missing. -/
structure Identity where
  host : String
  port : UInt32
  cluster : String
  name : String
  deriving DecidableEq, Inhabited

namespace Identity

def toData (i : Identity) : List Datum := [.text i.host, .uint32 i.port, .text i.cluster, .text i.name]

/-- Reads the fields of an identity. -/
def ofData? : List Datum → Option Identity
  | [.text host, .uint32 port, .text cluster, .text name] => some ⟨host, port, cluster, name⟩
  | _ => none

def ofIdentity (i : Flotilla.Identity) : Identity := ⟨i.host, i.port.toUInt32, i.cluster, i.name⟩

/-- The identity that arrived, if it has a host and a port. -/
def toIdentity (i : Identity) : Except RegisterError Flotilla.Identity :=
  if i.port ≠ 0 ∧ i.port < 65536 ∧ i.host ≠ "" then
    .ok ⟨i.name, i.host, i.port.toUInt16, i.cluster⟩
  else .error (.invalidAddress i.host i.port)

end Identity

/-- A token and the identity that presents it. -/
structure AuthInfo where
  token : String
  node : Option Identity
  deriving DecidableEq, Inhabited

namespace AuthInfo

/-- The fields of credentials. -/
def toData (a : AuthInfo) : List Datum :=
  [.text a.token, optionalDatum .nodeIdentity Identity.toData a.node]

/-- Reads the fields of credentials. -/
def ofData? : List Datum → Option AuthInfo
  | [.text token, node] => (optional? Identity.ofData? node).map (⟨token, ·⟩)
  | _ => none

def of (token : String) (node : Flotilla.Identity) : AuthInfo := ⟨token, some (.ofIdentity node)⟩

end AuthInfo

/-! ### Opaque values -/

/-- The value that a text stands for: null if it is empty, and the text itself if it is no JSON. -/
def opaqueValue (raw : String) : Json :=
  if raw = "" then .null else (Json.parse? raw).getD (.text raw)

/-! ### Engine data -/

structure User where
  email : String
  protocol : String
  inboundTag : String
  accountText : String
  deriving DecidableEq, Inhabited

namespace User

def toData (u : User) : List Datum :=
  [.text u.email, .text u.protocol, .text u.inboundTag, .text u.accountText]

/-- Reads the fields of a user. -/
def ofData? : List Datum → Option User
  | [.text email, .text protocol, .text tag, .text account] => some ⟨email, protocol, tag, account⟩
  | _ => none

def ofUser (u : Flotilla.User) : User := ⟨u.email, u.protocol, u.inboundTag, u.account.render⟩

def toUser (u : User) : Flotilla.User := ⟨u.email, u.protocol, u.inboundTag, opaqueValue u.accountText⟩

end User

structure Inbound where
  tag : String
  protocol : String
  port : UInt32
  settingsText : String
  deriving DecidableEq, Inhabited

namespace Inbound

def toData (i : Inbound) : List Datum :=
  [.text i.tag, .text i.protocol, .uint32 i.port, .text i.settingsText]

/-- Reads the fields of an inbound. -/
def ofData? : List Datum → Option Inbound
  | [.text tag, .text protocol, .uint32 port, .text settings] => some ⟨tag, protocol, port, settings⟩
  | _ => none

def ofInbound (i : Flotilla.Inbound) : Inbound :=
  ⟨i.tag, i.protocol, i.port.toUInt32, i.settings.render⟩

/-- The inbound that arrived, if its port fits. -/
def toInbound (i : Inbound) : Except EngineError Flotilla.Inbound :=
  if i.port < 65536 then .ok ⟨i.tag, i.protocol, i.port.toUInt16, opaqueValue i.settingsText⟩
  else .error (.failed ("inbound " ++ i.tag ++ " has invalid port " ++ toString i.port.toNat))

end Inbound

end Flotilla.Wire

namespace Flotilla

open Wire (Datum)

/-- The fields of the value of a counter. -/
def Stat.toData (s : Stat) : List Datum := [.text s.name, .int64 s.value]

/-- Reads the fields of the value of a counter. -/
def Stat.ofData? : List Datum → Option Stat
  | [.text name, .int64 value] => some ⟨name, value⟩
  | _ => none

def Cert.toData (c : Cert) : List Datum := [.text c.domain, .int64 c.notBefore, .int64 c.notAfter]

/-- Reads the fields of a certificate. -/
def Cert.ofData? : List Datum → Option Cert
  | [.text domain, .int64 notBefore, .int64 notAfter] => some ⟨domain, notBefore, notAfter⟩
  | _ => none

end Flotilla
