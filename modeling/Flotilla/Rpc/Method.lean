import Flotilla.Operation
import Flotilla.Wire.Schema

/-!
# Methods

The calls that nodes answer: two for membership, and one for each operation.
-/

namespace Flotilla.Rpc

/-- What can be called. -/
inductive Method where
  | register
  | heartbeat
  | operate (o : Operation)
  deriving DecidableEq, Repr, Inhabited

namespace Method

def all : List Method := [.register, .heartbeat] ++ Operation.all.map .operate

def name : Method → String
  | .register => "RegisterNode"
  | .heartbeat => "Heartbeat"
  | .operate .addUsers => "AddUsers"
  | .operate .deleteUsers => "DeleteUsers"
  | .operate .getUsers => "GetUsers"
  | .operate .addInbound => "AddInbound"
  | .operate .deleteInbound => "DeleteInbound"
  | .operate .getStats => "GetStats"
  | .operate .obtainCert => "ObtainCert"
  | .operate .getCerts => "GetCerts"

def ofName? (s : String) : Option Method := all.find? (·.name == s)

/-- The message that a call sends. -/
def requestType : Method → Wire.MessageType
  | .register => .registerRequest
  | .heartbeat => .heartbeatRequest
  | .operate .addUsers => .addUsersRequest
  | .operate .deleteUsers => .deleteUsersRequest
  | .operate .getUsers => .getUsersRequest
  | .operate .addInbound => .addInboundRequest
  | .operate .deleteInbound => .deleteInboundRequest
  | .operate .getStats => .getStatsRequest
  | .operate .obtainCert => .obtainCertRequest
  | .operate .getCerts => .getCertsRequest

/-- The message that answers a call. -/
def replyType : Method → Wire.MessageType
  | .register => .registerResponse
  | .heartbeat => .heartbeatResponse
  | .operate .getUsers => .getUsersResponse
  | .operate .getStats => .getStatsResponse
  | .operate .getCerts => .getCertsResponse
  | .operate _ => .commonResponse

end Method

end Flotilla.Rpc
