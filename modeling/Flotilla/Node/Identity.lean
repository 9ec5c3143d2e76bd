/-!
# Identities of nodes

Within a cluster a node goes by its name; the other fields tell a node that comes back apart from
another one that claims its name.
-/

namespace Flotilla

/-- The four fields that identify a node. -/
structure Identity where
  name : String
  host : String
  port : UInt16
  cluster : String
  deriving DecidableEq, Inhabited, Repr

namespace Identity

def address (i : Identity) : String := i.host ++ ":" ++ toString i.port.toNat

def display (i : Identity) : String := i.name ++ "@" ++ i.address

/-- A node can only be reached if it has a host and a port. -/
def HasAddress (i : Identity) : Prop := i.host ≠ "" ∧ i.port ≠ 0

instance (i : Identity) : Decidable i.HasAddress := inferInstanceAs (Decidable (_ ∧ _))

end Identity

end Flotilla
