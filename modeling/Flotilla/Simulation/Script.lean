import Flotilla.Rpc.Channels

/-!
# Faults and scripted peers

What may happen to a call on its way, and peers that answer as they are told to.
-/

namespace Flotilla.Simulation

open Rpc (Answer Method Status)
open Wire (MessageType Datum)

/-- What becomes of a call. -/
inductive Fate where
  | goesOn
  /-- It is never answered. -/
  | hangs
  /-- The one who calls dies. -/
  | dies
  | ends (s : Status)
  deriving DecidableEq, Inhabited

/-- A call is held up, and then meets its fate. -/
structure Behaviour where
  delay : Span
  fate : Fate
  deriving DecidableEq, Inhabited

inductive ScriptedReply where
  /-- The payload as it is. -/
  | raw (payload : Bytes)
  /-- A message, sealed with a key of its own or that of the script; its type is the one that answers the
  method, if no other is given. -/
  | sealed (key : Option String) (type : Option MessageType) (content : MessageType → List Datum)

/-- What a scripted peer does with a call. -/
structure Act where
  behaviour : Behaviour
  reply : ScriptedReply

/-- A call that a scripted peer received. -/
structure Received where
  time : Instant
  method : Method
  envelope : Envelope

/-- A peer that answers as it is told to. -/
structure Script where
  /-- The token for membership. -/
  token : String
  /-- The token for operations. -/
  operationToken : String
  /-- What to do in turn with the calls of a method; the last act is repeated. -/
  acts : List (String × List Act)
  /-- The calls received, the latest first. -/
  received : List Received

namespace Script

/-- Stands for all methods that have no acts of their own. -/
def anyMethod : String := "*"

def tokenFor (s : Script) : Method → String
  | .register | .heartbeat => s.token
  | .operate _ => s.operationToken

/-- The acts that are left after one of them. -/
def afterTurn : List Act → List Act
  | _ :: next :: rest => next :: rest
  | acts => acts

def takeFrom (key : String) : List (String × List Act) → Option (Act × List (String × List Act))
  | [] => none
  | (k, acts) :: rest =>
    if k = key then acts.head?.map (·, (k, afterTurn acts) :: rest)
    else (takeFrom key rest).map fun (act, rest) => (act, (k, acts) :: rest)

/-- Notes a call and takes the act that it meets, if there is one. -/
def receive (s : Script) (m : Method) (e : Envelope) (now : Instant) : Script × Option Act :=
  let s := { s with received := ⟨now, m, e⟩ :: s.received }
  match (takeFrom m.name s.acts).orElse fun _ => takeFrom anyMethod s.acts with
  | some (act, acts) => ({ s with acts }, some act)
  | none => (s, none)

def envelope (s : Script) (m : Method) : ScriptedReply → Envelope
  | .raw payload => ⟨"", "", 0, payload⟩
  | .sealed key type content =>
    let t := type.getD m.replyType
    .close .cluster (key.getD (s.tokenFor m)) "" "" t (content t)

end Script

end Flotilla.Simulation
