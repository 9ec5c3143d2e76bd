/-!
# The messages between nodes

Each message has a layout: its fields in the order of their numbers.  A field is a scalar, a list of
scalars, another message that may be absent, or a list of messages.
-/

namespace Flotilla.Wire

/-- The values without parts. -/
inductive Scalar where
  | text
  | blob
  | uint32
  | int32
  | int64
  | bool
  deriving DecidableEq, Repr

inductive MessageType where
  | sealedMessage
  | nodeIdentity
  | nodeAuthInfo
  | registerRequest
  | registerResponse
  | heartbeatRequest
  | heartbeatResponse
  | commonResponse
  | user
  | addUsersRequest
  | deleteUsersRequest
  | getUsersRequest
  | getUsersResponse
  | inbound
  | addInboundRequest
  | deleteInboundRequest
  | getStatsRequest
  | stat
  | getStatsResponse
  | obtainCertRequest
  | getCertsRequest
  | cert
  | getCertsResponse
  deriving DecidableEq, Repr

/-- What a field holds, one or many of. -/
inductive Kind where
  | scalar (s : Scalar)
  | message (t : MessageType)
  deriving DecidableEq, Repr

structure Field where
  name : String
  number : Nat
  kind : Kind
  /-- The field holds a list. -/
  repeated : Bool
  deriving DecidableEq, Repr

namespace MessageType

def one (name : String) (number : Nat) (s : Scalar) : Field := ⟨name, number, .scalar s, false⟩

def sub (name : String) (number : Nat) (t : MessageType) : Field :=
  ⟨name, number, .message t, false⟩

def many (name : String) (number : Nat) (t : MessageType) : Field :=
  ⟨name, number, .message t, true⟩

/-- The credentials of a request. -/
def auth : Field := sub "auth" 1 .nodeAuthInfo

/-- The code and the message of a reply. -/
def status : List Field := [one "code" 1 .int32, one "msg" 2 .text]

def layout : MessageType → List Field
  | .sealedMessage =>
    [one "cluster_name" 1 .text, one "sender" 2 .text, one "key_kind" 3 .int32,
      one "payload" 4 .blob]
  | .nodeIdentity =>
    [one "host" 1 .text, one "port" 2 .uint32, one "cluster_name" 3 .text, one "name" 4 .text]
  | .nodeAuthInfo => [one "token" 1 .text, sub "node" 2 .nodeIdentity]
  | .registerRequest => [auth]
  | .registerResponse => status ++ [one "token" 3 .text]
  | .heartbeatRequest => [auth]
  | .heartbeatResponse => status ++ [many "known_peers" 3 .nodeIdentity]
  | .commonResponse => status
  | .user =>
    [one "email" 1 .text, one "protocol" 2 .text, one "inbound_tag" 3 .text,
      one "account_json" 4 .text]
  | .addUsersRequest => [auth, many "users" 2 .user]
  | .deleteUsersRequest =>
    [auth, one "inbound_tag" 2 .text, ⟨"emails", 3, .scalar .text, true⟩]
  | .getUsersRequest => [auth, one "inbound_tag" 2 .text]
  | .getUsersResponse => status ++ [many "users" 3 .user]
  | .inbound =>
    [one "tag" 1 .text, one "protocol" 2 .text, one "port" 3 .uint32, one "settings_json" 4 .text]
  | .addInboundRequest => [auth, sub "inbound" 2 .inbound]
  | .deleteInboundRequest => [auth, one "tag" 2 .text]
  | .getStatsRequest => [auth, one "pattern" 2 .text, one "reset" 3 .bool]
  | .stat => [one "name" 1 .text, one "value" 2 .int64]
  | .getStatsResponse => status ++ [many "stats" 3 .stat]
  | .obtainCertRequest => [auth, one "domain" 2 .text]
  | .getCertsRequest => [auth, one "domain" 2 .text]
  | .cert => [one "domain" 1 .text, one "not_before" 2 .int64, one "not_after" 3 .int64]
  | .getCertsResponse => status ++ [many "certs" 3 .cert]

def all : List MessageType :=
  [.sealedMessage, .nodeIdentity, .nodeAuthInfo, .registerRequest, .registerResponse,
    .heartbeatRequest, .heartbeatResponse, .commonResponse, .user, .addUsersRequest,
    .deleteUsersRequest, .getUsersRequest, .getUsersResponse, .inbound, .addInboundRequest,
    .deleteInboundRequest, .getStatsRequest, .stat, .getStatsResponse, .obtainCertRequest,
    .getCertsRequest, .cert, .getCertsResponse]

def name : MessageType → String
  | .sealedMessage => "SealedMessage"
  | .nodeIdentity => "NodeIdentity"
  | .nodeAuthInfo => "NodeAuthInfo"
  | .registerRequest => "RegisterRequest"
  | .registerResponse => "RegisterResponse"
  | .heartbeatRequest => "HeartbeatRequest"
  | .heartbeatResponse => "HeartbeatResponse"
  | .commonResponse => "CommonResponse"
  | .user => "User"
  | .addUsersRequest => "AddUsersRequest"
  | .deleteUsersRequest => "DeleteUsersRequest"
  | .getUsersRequest => "GetUsersRequest"
  | .getUsersResponse => "GetUsersResponse"
  | .inbound => "Inbound"
  | .addInboundRequest => "AddInboundRequest"
  | .deleteInboundRequest => "DeleteInboundRequest"
  | .getStatsRequest => "GetStatsRequest"
  | .stat => "Stat"
  | .getStatsResponse => "GetStatsResponse"
  | .obtainCertRequest => "ObtainCertRequest"
  | .getCertsRequest => "GetCertsRequest"
  | .cert => "Cert"
  | .getCertsResponse => "GetCertsResponse"

def ofName? (s : String) : Option MessageType := all.find? (·.name == s)

theorem mem_all (t : MessageType) : t ∈ all := by cases t <;> decide

end MessageType

end Flotilla.Wire
