/-!
# Response codes

Every answer carries a number.  Zero is success; a registration of a node that holds a live token is
answered with the one other number that counts as success.
-/

namespace Flotilla

inductive ResponseCode where
  | ok
  | invalidAddress
  | wrongCluster
  | alreadyRegistered
  | sameNameAsServer
  | nodeDropped
  | nameCollision
  | authFailed
  | operationFailed
  deriving DecidableEq, Repr

namespace ResponseCode

def all : List ResponseCode :=
  [.ok, .invalidAddress, .wrongCluster, .alreadyRegistered, .sameNameAsServer, .nodeDropped,
    .nameCollision, .authFailed, .operationFailed]

def number : ResponseCode → Int32
  | .ok => 0
  | .invalidAddress => 100
  | .wrongCluster => 101
  | .alreadyRegistered => 102
  | .sameNameAsServer => 103
  | .nodeDropped => 104
  | .nameCollision => 105
  | .authFailed => 400
  | .operationFailed => 500

def name : ResponseCode → String
  | .ok => "Ok"
  | .invalidAddress => "InvalidAddress"
  | .wrongCluster => "WrongCluster"
  | .alreadyRegistered => "AlreadyRegistered"
  | .sameNameAsServer => "SameNameAsServer"
  | .nodeDropped => "NodeDropped"
  | .nameCollision => "NameCollision"
  | .authFailed => "AuthFailed"
  | .operationFailed => "OperationFailed"

def ofNumber? (n : Int32) : Option ResponseCode := all.find? (·.number == n)

/-- The name and the number of a code, known or not. -/
def describe (n : Int32) : String :=
  ((ofNumber? n).map name).getD "Unknown" ++ "(" ++ toString n.toInt ++ ")"

theorem mem_all (c : ResponseCode) : c ∈ all := by cases c <;> decide

@[simp] theorem ofNumber?_number (c : ResponseCode) : ofNumber? c.number = some c := by
  cases c <;> decide

end ResponseCode

end Flotilla
