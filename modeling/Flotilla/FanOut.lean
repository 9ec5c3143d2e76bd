import Flotilla.PeerView
import Flotilla.Rpc.Exchange

/-!
# Fanning out operations

A task is sent to many peers at once.  Peers without a live token are skipped; a peer that fails shows
up in the result and nowhere else.
-/

namespace Flotilla

open Rpc (Answer CallError Method Request Reply)

inductive FanOutError where
  | payload (o : Operation)
  | unknownOperation (name : String)
  deriving DecidableEq, Repr

/-- The wording of a fan-out error, as far as it does not depend on the reader of the payload. -/
def FanOutError.message : FanOutError → String
  | .payload o => "failed to decode " ++ o.name ++ " payload"
  | .unknownOperation name => "unknown operation " ++ name

/-- Why a call to one target brought no outcome. -/
inductive TargetFailure where
  | call (e : CallError)
  /-- The call did not end; what cut it off says why. -/
  | died (reason : String)
  | unknown (name : String)
  deriving DecidableEq

def TargetFailure.message : TargetFailure → String
  | .call e => e.message
  | .died reason => reason
  | .unknown name => (AuthError.nodeNotExist name).message

/-! ### Calls -/

/-- How a call ended for its caller. -/
inductive Ending where
  | answered (a : Answer)
  | timedOut
  | died (reason : String)

/-- What a call brought. -/
def Ending.reply (token : String) (m : Method) (rpcTimeout : Span) : Ending → Except TargetFailure Reply
  | .answered a => (Rpc.reply token m rpcTimeout (some a)).mapError .call
  | .timedOut => (Rpc.reply token m rpcTimeout none).mapError .call
  | .died reason => .error (.died reason)

/-! ### Results -/

/-- The results of a fan-out by the names of its targets. -/
structure FanOut where
  succeeded : Table Outcome
  failed : Table TargetFailure
  skipped : List String
  deriving DecidableEq

namespace FanOut

def empty : FanOut := ⟨∅, ∅, []⟩

instance : Inhabited FanOut := ⟨empty⟩

def isCalled (now : Instant) (target : Node) : Bool := target.registeredRemoteAt now

def called (targets : List Node) (now : Instant) : List Node := targets.filter (isCalled now)

def skippedNames (targets : List Node) (now : Instant) : List String :=
  (targets.filter fun n => !isCalled now n).map (·.name)

def request (this : Identity) (target : Node) (t : Task) : Request :=
  ⟨some (.of target.outToken this), .operate (.ofTask t)⟩

/-- The envelope in which a task goes to a target. -/
def envelope (this : Identity) (target : Node) (t : Task) : Envelope :=
  (request this target t).close .node target.outToken this.cluster this.name

def outcome (r : Reply) : Except CallError Outcome := r.accept.map fun r => r.body.toOutcome

/-- What the call of a task to a target brought. -/
def brought (target : Node) (t : Task) (rpcTimeout : Span) (ending : Ending) :
    Except TargetFailure Outcome := do
  let r ← ending.reply target.outToken (.operate t.operation) rpcTimeout
  (outcome r).mapError .call

def enter (result : FanOut) (name : String) : Except TargetFailure Outcome → FanOut
  | .ok o => { result with succeeded := result.succeeded.insert name o }
  | .error e => { result with failed := result.failed.insert name e }

/-- The result of a fan-out from those of the called targets, in order, and the names that were
skipped. -/
def collect (results : List (String × Except TargetFailure Outcome)) (skipped : List String) :
    FanOut :=
  results.foldl (fun acc r => acc.enter r.1 r.2) ⟨∅, ∅, skipped⟩

def enterUnknown (result : FanOut) (names : List String) : FanOut :=
  names.foldl (fun acc name => acc.enter name (.error (.unknown name))) result

/-- All failures in one line. -/
def summary (f : FanOut) : String :=
  "|".intercalate (f.failed.toList.map fun e => "node: " ++ e.1 ++ " > err: " ++ e.2.message)

def allSucceeded (f : FanOut) : Bool := f.failed.isEmpty && f.skipped.isEmpty

/-! ### Under way -/

/-- A call to a target, with its result once it has ended. -/
structure Call where
  target : Node
  result : Option (Except TargetFailure Outcome)
  deriving Inhabited

/-- A fan-out under way. -/
structure Batch where
  task : Task
  calls : List Call
  /-- The names of the targets that are skipped. -/
  skipped : List String
  /-- Names that belong to no known peer. -/
  unknown : List String
  deriving Inhabited

namespace Batch

/-- A task is to be sent to those of the targets that are called. -/
def start (task : Task) (targets : List Node) (unknown : List String) (now : Instant) : Batch where
  task := task
  calls := (called targets now).map (⟨·, none⟩)
  skipped := skippedNames targets now
  unknown := unknown

def finish (b : Batch) (rpcTimeout : Span) (place : Nat) (ending : Ending) : Batch :=
  { b with calls := b.calls.modify place fun c =>
    { c with result := some (brought c.target b.task rpcTimeout ending) } }

def result? (b : Batch) : Option FanOut :=
  (b.calls.mapM fun (c : Call) => c.result.map (c.target.name, ·)).map fun results =>
    (collect results b.skipped).enterUnknown b.unknown

end Batch

end FanOut

/-- The known peers among some names, and the other names. -/
def PeerView.resolve (v : PeerView) (names : List String) : List Node × List String :=
  (names.filterMap v.cluster.nodes.get?, names.filter fun n => !v.cluster.nodes.contains n)

end Flotilla
