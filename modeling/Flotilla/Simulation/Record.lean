import Flotilla.Rpc.Method
import Flotilla.Simulation.Script

/-!
# Records of a world

What is noted while a world runs: the calls that were made, the channels that were dialled, and the tokens
that were issued.
-/

namespace Flotilla.Simulation

open Rpc (Method)

structure CallRecord where
  time : Instant
  sender : String
  target : String
  method : Method

/-- A channel that was opened, or could not be. -/
structure DialRecord where
  time : Instant
  sender : String
  url : String

/-- Whether one list of texts comes before another, or is the same. -/
def isBefore : List String → List String → Bool
  | [], _ => true
  | _ :: _, [] => false
  | a :: as, b :: bs => a < b || (a == b && isBefore as bs)

def inOrder {α : Type} (time : α → Instant) (texts : α → List String) (records : List α) : List α :=
  records.mergeSort fun a b => time a < time b || (time a == time b && isBefore (texts a) (texts b))

def CallRecord.sort (calls : List CallRecord) : List CallRecord :=
  inOrder CallRecord.time (fun c => [c.sender, c.target, c.method.name]) calls

def DialRecord.sort (dials : List DialRecord) : List DialRecord :=
  inOrder DialRecord.time (fun d => [d.sender, d.url]) dials

/-! ### Issued tokens -/

structure Issue where
  token : String
  issuer : String
  cluster : String
  holder : String
  deriving DecidableEq

namespace Issue

/-- Whether two tokens were issued by one node for one holder. -/
def isAkin (i j : Issue) : Bool := i.issuer = j.issuer ∧ i.cluster = j.cluster ∧ i.holder = j.holder

/-- The tokens with their names, which tell who issued them to whom and count those that are akin. -/
def names (issues : List Issue) : List (String × String) :=
  issues.zipIdx.map fun (i, n) =>
    let count := ((issues.take (n + 1)).filter i.isAkin).length
    (i.token, "@" ++ i.issuer ++ "/" ++ i.cluster ++ "/" ++ i.holder ++ "#" ++ toString count)

/-- The name of a token; one that was not issued goes by its own text. -/
def nameOf (issues : List Issue) (token : String) : String := ((names issues).lookup token).getD token

/-- The token with a name; a name that no token has is a token itself. -/
def tokenOf (issues : List Issue) (name : String) : String :=
  (((names issues).find? fun e => e.2 == name).map (·.1)).getD name

end Issue

end Flotilla.Simulation
