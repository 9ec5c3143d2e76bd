import Flotilla.Seal
import Flotilla.Wire.Datum

/-!
# Envelopes

An envelope names a cluster and a sender in the clear and carries a message sealed under a token:
the token of the cluster, or a token issued to one node.  The names are not authenticated.
-/

namespace Flotilla

/-- Whose token an envelope is sealed with. -/
inductive KeyKind where
  | cluster
  | node
  deriving DecidableEq, Repr

def KeyKind.number : KeyKind → Int32
  | .cluster => 0
  | .node => 1

inductive OpenError where
  | seal (e : SealError)
  | malformed
  deriving DecidableEq, Repr

def OpenError.message : OpenError → String
  | .seal e => e.message
  | .malformed => "failed to decode message: failed to decode Protobuf message"

/-- A sealed message with its header. -/
structure Envelope where
  cluster : String
  sender : String
  keyKind : Int32
  payload : Bytes
  deriving DecidableEq, Inhabited

namespace Envelope

open Wire (MessageType Datum)

def close (kind : KeyKind) (token cluster sender : String) (t : MessageType) (ds : List Datum) :
    Envelope :=
  ⟨cluster, sender, kind.number, Seal.close token (Datum.encode t ds)⟩

/-- Opens an envelope that holds a message of type `t`; the header plays no part. -/
def open? (token : String) (t : MessageType) (e : Envelope) : Except OpenError (List Datum) :=
  match Seal.reopen token e.payload with
  | .error fault => .error (.seal fault)
  | .ok b =>
    match Datum.decode? t b with
    | none => .error .malformed
    | some ds => .ok ds

end Envelope

end Flotilla
