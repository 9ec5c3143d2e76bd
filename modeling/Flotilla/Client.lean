import Flotilla.FanOut
import Flotilla.Limiter

/-!
# Clients

All fan-outs of a client share a limiter.  A call asks for a slot, sends its request once it has got one, and
gives the slot back when it ends, in whatever way.  The calls take these steps in any order.
-/

namespace Flotilla.FanOut

open Rpc (Method)

/-- A call of a client: the number of its fan-out, and its place there. -/
structure CallId where
  number : Nat
  place : Nat
  deriving DecidableEq, Inhabited

/-- The fan-outs of a node, the limiter that their calls share, and how far the calls have come that have
got a slot. -/
structure Client where
  this : Identity
  rpcTimeout : Span
  limiter : Limiter CallId
  batches : List Batch
  /-- The calls that have got a slot and have yet to send their requests. -/
  admitted : List CallId
  /-- The calls that have sent their requests and have not ended. -/
  sent : List CallId
  deriving Inhabited

namespace Client

def new (this : Identity) (limit : Nat) (rpcTimeout : Span) : Client :=
  ⟨this, rpcTimeout, .new limit, [], [], []⟩

/-- A call has been made and has not ended. -/
def isOpen (s : Client) (c : CallId) : Bool :=
  ((s.batches[c.number]?).bind (·.calls[c.place]?)).any (·.result.isNone)

/-- The calls that have asked for a slot and have not ended. -/
def asked (s : Client) : List CallId := s.sent ++ s.admitted ++ s.limiter.line

/-- Whom a call is for, and what it sends. -/
def request? (s : Client) (c : CallId) : Option (Identity × Method × Envelope) := do
  let b ← s.batches[c.number]?
  let call ← b.calls[c.place]?
  return (call.target.identity, .operate b.task.operation, envelope s.this call.target b.task)

def result? (s : Client) (number : Nat) : Option FanOut := (s.batches[number]?).bind (·.result?)

/-! ### Steps -/

/-- What may happen to a client. -/
inductive Move where
  /-- A fan-out begins. -/
  | start (t : Task) (targets : List Node) (unknown : List String) (now : Instant)
  /-- A call asks for a slot. -/
  | acquire (c : CallId)
  /-- A call that has got its slot sends its request. -/
  | send (c : CallId)
  /-- A call that has sent its request ends. -/
  | complete (c : CallId) (ending : Ending)
  /-- A call that has got its slot dies before it has sent its request. -/
  | abort (c : CallId) (reason : String)

def start (s : Client) (b : Batch) : Client := { s with batches := s.batches ++ [b] }

/-- A call asks for a slot, and may have to wait for it. -/
def acquire (s : Client) (c : CallId) : Client :=
  { s with
    limiter := (s.limiter.acquire c).1
    admitted := if (s.limiter.acquire c).2 then s.admitted ++ [c] else s.admitted }

def send (s : Client) (c : CallId) : Client :=
  { s with admitted := s.admitted.erase c, sent := s.sent ++ [c] }

/-- A call that has a slot ends, and gives it back. -/
def leave (s : Client) (c : CallId) (ending : Ending) : Client :=
  { s with
    limiter := s.limiter.release.1
    batches := s.batches.modify c.number (·.finish s.rpcTimeout c.place ending)
    admitted := s.admitted.erase c ++ s.limiter.release.2.toList
    sent := s.sent.erase c }

/-- What happens, if it can. -/
def step (s : Client) : Move → Client
  | .start t targets unknown now => s.start (.start t targets unknown now)
  | .acquire c => if s.isOpen c ∧ c ∉ s.asked then s.acquire c else s
  | .send c => if c ∈ s.admitted then s.send c else s
  | .complete c ending => if c ∈ s.sent then s.leave c ending else s
  | .abort c reason => if c ∈ s.admitted then s.leave c (.died reason) else s

/-- One thing happens after the other. -/
def play (s : Client) (moves : List Move) : Client := moves.foldl step s

end Client

end Flotilla.FanOut
