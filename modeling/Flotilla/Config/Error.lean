import Flotilla.Node.Static
import Flotilla.Time

/-!
# What is wrong with a configuration
-/

namespace Flotilla

/-- What is wrong with the identity of a node or of its center. -/
inductive IdentityFault where
  | emptyNodeName
  | badAddress (address : String)
  | emptyClusterName
  | badPort (key : String) (port : Int)
  | badCenter (center : Identity)
  | emptyCenterName
  deriving DecidableEq, Repr

def IdentityFault.message : IdentityFault → String
  | .emptyNodeName => "node name is empty"
  | .badAddress address => "invalid address " ++ address
  | .emptyClusterName => "cluster name is empty"
  | .badPort key port => key ++ " = " ++ toString port ++ " is not a valid port"
  | .badCenter center => "invalid center node " ++ center.display
  | .emptyCenterName => "center name is empty"

/-- What is wrong with the intervals of the loops. -/
inductive IntervalFault where
  | zero
  | heartbeatTooLong (heartbeat : Span)
  | timeoutTooLong (rpcTimeout heartbeat : Span)
  | notPositive (key : String) (value : Int)
  | zeroEviction
  deriving DecidableEq, Repr

def IntervalFault.message : IntervalFault → String
  | .zero => "intervals must be positive"
  | .heartbeatTooLong heartbeat =>
    "heartbeat interval " ++ heartbeat.text ++ " is too long for a 1m heartbeat timeout"
  | .timeoutTooLong rpcTimeout heartbeat =>
    "rpc timeout " ++ rpcTimeout.text ++ " must be shorter than the heartbeat interval " ++
      heartbeat.text
  | .notPositive key value => key ++ " = " ++ toString value ++ " must be positive"
  | .zeroEviction => "eviction interval is zero"

/-- Why a configuration cannot be read, written or used. -/
inductive ConfigError where
  | io
  | parse
  | serialize
  | missingKey (key : String)
  | wrongKind (key expected found : String)
  /-- The value does not have the shape that is asked for. -/
  | wrongShape (key : String)
  | staticNode (name : String) (fault : StaticFault)
  | identity (fault : IdentityFault)
  | intervals (fault : IntervalFault)
  deriving DecidableEq, Repr

/-- The wording of a configuration error, as far as it is not left to the system or to the reader of the
document. -/
def ConfigError.message : ConfigError → String
  | .io => "failed to read or write config file"
  | .parse => "failed to parse config"
  | .serialize => "failed to serialize config"
  | .missingKey key => "missing config key " ++ key
  | .wrongKind key expected found =>
    "config key " ++ key ++ " has an unexpected type: expected " ++ expected ++ ", found " ++ found
  | .wrongShape key => "config key " ++ key ++ " has an unexpected type"
  | .staticNode name fault => "invalid static node " ++ name ++ ": " ++ fault.message
  | .identity fault => "invalid node identity: " ++ fault.message
  | .intervals fault => "invalid membership intervals: " ++ fault.message

end Flotilla
