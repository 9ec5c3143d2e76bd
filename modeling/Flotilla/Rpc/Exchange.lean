import Flotilla.Envelope
import Flotilla.Rpc.Request
import Flotilla.Rpc.Reply
import Flotilla.Rpc.Status
import Flotilla.Time

/-!
# Sealed requests and replies

A request travels in an envelope and is answered by a reply in an envelope, or by a status.  The one
who calls learns either the reply or why there is none to trust.
-/

namespace Flotilla.Rpc

def Request.close (kind : KeyKind) (token cluster sender : String) (r : Request) : Envelope :=
  .close kind token cluster sender r.call.method.requestType r.toData

def Request.open? (token : String) (m : Method) (e : Envelope) : Except OpenError Request := do
  match Request.ofData? m (← e.open? token m.requestType) with
  | some r => .ok r
  | none => .error .malformed

def Reply.close (kind : KeyKind) (token cluster sender : String) (m : Method) (r : Reply) : Envelope :=
  .close kind token cluster sender m.replyType r.toData

def Reply.open? (token : String) (m : Method) (e : Envelope) : Except OpenError Reply := do
  match Reply.ofData? m (← e.open? token m.replyType) with
  | some r => .ok r
  | none => .error .malformed

/-- What comes back from a call: an envelope, or a status. -/
abbrev Answer := Except Status Envelope

inductive CallError where
  | transport (s : Status)
  | timeout (after : Span)
  | sealed (e : OpenError)
  | rejected (code : Int32) (msg : String)
  deriving DecidableEq

namespace CallError

def message : CallError → String
  | .transport s => "transport error: " ++ s.text
  | .timeout after => "no reply within " ++ after.text
  | .sealed e => e.message
  | .rejected code msg => ResponseCode.describe code ++ ": " ++ msg

end CallError

def Reply.rejection (r : Reply) : CallError := .rejected r.code r.msg

/-- The reply, unless it reports an error. -/
def Reply.accept (r : Reply) : Except CallError Reply := if r.code = 0 then .ok r else .error r.rejection

/-- What a call to a method brought: nothing in time, a status, or an envelope to open. -/
def reply (token : String) (m : Method) (rpcTimeout : Span) : Option Answer → Except CallError Reply
  | none => .error (.timeout rpcTimeout)
  | some (.error s) => .error (.transport s)
  | some (.ok e) =>
    match Reply.open? token m e with
    | .error fault => .error (.sealed fault)
    | .ok r => .ok r

end Flotilla.Rpc
