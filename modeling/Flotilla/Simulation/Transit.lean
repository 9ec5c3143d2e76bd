import Flotilla.Rpc.Passage
import Flotilla.Simulation.World

/-!
# Calls on their way

A call goes over a link, which may be faulty, to what is served at an address.  It may be held up on the
way, and a call that is not answered by its deadline has timed out; an answer at the very deadline is in
time.
-/

namespace Flotilla.Simulation

open FanOut (CallId)
open Rpc (Answer Channels Method)

/-! ### The end of a call -/

namespace World

/-- A contact of the current cycle has ended; the cycle ends with its last contact. -/
def endContact (w : World) (number : Nat) : World :=
  match w.members[number]? with
  | none => w
  | some m =>
    let w := w.modifyMember number ({ · with pending := m.pending - 1 })
    if m.pending ≤ 1 then w.schedule m.nextBeat m.slot (.beat number) else w

/-- Applies the outcome of a contact; one that died has none. -/
def settleContact (w : World) (number : Nat) (c : Contact) (t : Transit) (ending : Ending) : World :=
  match w.members[number]? with
  | none => w
  | some m =>
    let reply := ending.reply m.node.view.cluster.token t.method m.node.intervals.rpcTimeout
    let settle (outcome : Except Rpc.CallError News) : World :=
      w.modifyMember number ({ · with node.view := m.node.view.settle c outcome w.now })
    let w := match reply with
      | .ok r => settle (Contact.news r)
      | .error (.call e) => settle (.error e)
      | .error _ => w
    w.endContact number

/-- A call of a fan-out ends.  The first call in line is next. -/
def settleOperation (w : World) (number : Nat) (c : CallId) (t : Transit) (ending : Ending) : World :=
  match w.members[number]? with
  | none => w
  | some m =>
    let w := w.modifyMember number ({ · with client := m.client.step (.complete c ending) })
    match m.limiter.line with
    | [] => w
    | next :: _ =>
      w.schedule w.moment ((w.dispatchSlot? number next.number).getD t.slot) (.operation number next)

/-- A call has ended. -/
def land (w : World) (t : Transit) (ending : Ending) : World :=
  let w := match ending, t.endpoint with
    | .answered a, some (number, e) =>
      w.modifyMember number fun m =>
        { m with channels := m.channels.map fun (c : Channels) => c.afterAnswer e a }
    | _, _ => w
  match t.caller with
  | .contact number c => w.settleContact number c t ending
  | .client number c => w.settleOperation number c t ending

/-- A call was answered from the far end of its link. -/
def deliver (w : World) (t : Transit) (a : Answer) : World :=
  w.land t (.answered (if t.endpoint.isSome then Rpc.arrived a else a))

/-! ### On the way -/

/-- A call is not answered before its deadline. -/
def awaitDeadline (w : World) (t : Transit) : World := w.schedule t.deadline t.slot (.timeout t)

/-- A call is held up, and goes on if that is not after its deadline. -/
def holdUp (w : World) (t : Transit) (delay : Span) (s : Stage) : World :=
  if w.moment + delay ≤ t.deadline then w.schedule (w.moment + delay) t.slot (.resume t s)
  else w.awaitDeadline t

def meet (w : World) (t : Transit) (goOn : World → World) : Fate → World
  | .goesOn => goOn w
  | .hangs => w.awaitDeadline t
  | .dies => w.land t (.died "task panicked")
  | .ends s => w.deliver t (.error s)

/-- A scripted peer acts. -/
def perform (w : World) (t : Transit) (number : Nat) (act : Act) : World :=
  match w.scripts[number]? with
  | none => w.deliver t (.error Rpc.refused)
  | some script =>
    w.meet t (·.deliver t (.ok (script.envelope t.method act.reply))) act.behaviour.fate

/-- A call arrives at its address. -/
def arrive (w : World) (t : Transit) : World :=
  match w.sites[t.address]? with
  | none => w.deliver t (.error Rpc.refused)
  | some (.actor a) =>
    let (w, answer) := w.serve a t.method t.envelope
    w.deliver t answer
  | some (.script number) =>
    match w.scripts[number]? with
    | none => w.deliver t (.error Rpc.refused)
    | some script =>
      let (script, act) := script.receive t.method t.envelope w.now
      let w := { w with scripts := w.scripts.setIfInBounds number script }
      match act with
      | none => w.deliver t (.error Rpc.unimplemented)
      | some act =>
        if act.behaviour.delay = 0 then w.perform t number act
        else w.holdUp t act.behaviour.delay (.atScript number act)

/-- A call that was held up goes on. -/
def resume (w : World) (t : Transit) : Stage → World
  | .onLink fate => w.meet t (·.arrive t) fate
  | .atScript number act => w.perform t number act

def enterLink (w : World) (t : Transit) (target : String) : World :=
  match w.faultOn t.sender target with
  | none => w.arrive t
  | some b =>
    if b.delay = 0 then w.resume t (.onLink b.fate) else w.holdUp t b.delay (.onLink b.fate)

/-! ### The start of a call -/

/-- Opens the channel for a call, if it is not open, and sends the call over it. -/
def dial (w : World) (number : Nat) (channels : Channels) (t : Transit) : World :=
  match Rpc.endpointOf t.target with
  | .error s => w.land t (.answered (.error s))
  | .ok e =>
    let t := { t with address := e.address, endpoint := some (number, e) }
    if channels.contains e then w.enterLink t t.address
    else
      let w := { w with dials := ⟨w.now, t.sender, e.text⟩ :: w.dials }
      if !w.sites.contains e.address then
        w.land t (.answered (.error (Rpc.unreachable t.target "no route")))
      else if !e.isDialable then
        w.land t (.answered (.error (Rpc.unreachable t.target "invalid uri character")))
      else
        let w := w.modifyMember number ({ · with channels := some (channels.keep e) })
        w.enterLink t t.address

def send (w : World) (number : Nat) (m : Member) (caller : Caller) (target : Identity) (method : Method)
    (envelope : Envelope) (slot : Nat) : World :=
  let sender := m.node.this.name
  let w := { w with calls := ⟨w.now, sender, target.name, method⟩ :: w.calls }
  let t : Transit :=
    { caller, sender, target, method, envelope, slot
      address := target.address
      endpoint := none
      deadline := w.moment + m.node.intervals.rpcTimeout }
  match m.channels with
  | none => w.enterLink t target.name
  | some channels => w.dial number channels t

end World

end Flotilla.Simulation
