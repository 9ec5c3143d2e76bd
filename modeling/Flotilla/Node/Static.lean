import Flotilla.Node.Basic

/-!
# Peers from the configuration

A static entry names a peer by name, host and port.  It is refused if it could not be contacted, if
its port is reserved, or if it is the node itself.
-/

namespace Flotilla

/-- A peer as the configuration lists it. -/
structure StaticNode where
  name : String
  host : String
  port : UInt16
  deriving DecidableEq, Inhabited, Repr

inductive StaticFault where
  | emptyName
  | emptyHost
  | reservedPort
  | ownName
  | ownAddress
  deriving DecidableEq, Repr

def StaticFault.message : StaticFault → String
  | .emptyName => "empty name"
  | .emptyHost => "empty host"
  | .reservedPort => "port must be greater than 1000"
  | .ownName => "name is the same as this node's name"
  | .ownAddress => "address is the same as this node's address"

namespace StaticNode

/-- The greatest port that no static peer may use. -/
def reservedPorts : UInt16 := 1000

/-- The first reason against an entry, if there is one. -/
def fault? (e : StaticNode) (this : Identity) : Option StaticFault :=
  if e.name = "" then some .emptyName
  else if e.host = "" then some .emptyHost
  else if e.port ≤ reservedPorts then some .reservedPort
  else if e.name = this.name then some .ownName
  else if e.host = this.host ∧ e.port = this.port then some .ownAddress
  else none

/-- The identity of the peer in the cluster of this node. -/
def identity (e : StaticNode) (this : Identity) : Identity := ⟨e.name, e.host, e.port, this.cluster⟩

/-- The first entry that is refused, and why. -/
def firstFault? (this : Identity) : List StaticNode → Option (StaticNode × StaticFault)
  | [] => none
  | e :: es =>
    match e.fault? this with
    | some f => some (e, f)
    | none => firstFault? this es

end StaticNode

end Flotilla
