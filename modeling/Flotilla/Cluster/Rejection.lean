import Flotilla.Node.Identity
import Flotilla.ResponseCode

/-!
# Why a cluster turns a request down
-/

namespace Flotilla

/-- Why a request is not accepted as coming from the node that it claims. -/
inductive AuthError where
  | nodeNotExist (name : String)
  | metaMismatch (name : String)
  | wrongToken (name : String)
  | tokenTimeout (name : String)
  | missingAuthInfo
  deriving DecidableEq, Repr

def AuthError.message : AuthError → String
  | .nodeNotExist name => "node " ++ name ++ " not exist"
  | .metaMismatch name => "node " ++ name ++ " has the same name but different meta info"
  | .wrongToken name => "wrong token for node " ++ name
  | .tokenTimeout name => "invalid token for node " ++ name ++ ", token timeout"
  | .missingAuthInfo => "request carries no node auth info"

def AuthError.code (_ : AuthError) : ResponseCode := .authFailed

inductive RegisterError where
  | invalidAddress (host : String) (port : UInt32)
  | wrongCluster (name : String)
  | sameNameAsServer (name : String)
  | nameCollision (name : String)
  deriving DecidableEq, Repr

def RegisterError.message : RegisterError → String
  | .invalidAddress host port => "invalid node address " ++ host ++ ":" ++ toString port.toNat
  | .wrongCluster name => "wrong name or token for cluster " ++ name
  | .sameNameAsServer name => "node name " ++ name ++ " is the same as the server's own name"
  | .nameCollision name => "node " ++ name ++ " already exists with a different identity"

def RegisterError.code : RegisterError → ResponseCode
  | .invalidAddress .. => .invalidAddress
  | .wrongCluster _ => .wrongCluster
  | .sameNameAsServer _ => .sameNameAsServer
  | .nameCollision _ => .nameCollision

inductive HeartbeatError where
  | nodeDropped (name : String)
  | auth (e : AuthError)
  deriving DecidableEq, Repr

def HeartbeatError.message : HeartbeatError → String
  | .nodeDropped name => "node " ++ name ++ " has been dropped"
  | .auth e => e.message

def HeartbeatError.code : HeartbeatError → ResponseCode
  | .nodeDropped _ => .nodeDropped
  | .auth e => e.code

end Flotilla
