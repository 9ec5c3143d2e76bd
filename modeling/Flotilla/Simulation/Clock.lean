import Flotilla.Simulation.Transit

/-!
# Clocks

What happens, and when.  Each step takes a moment, which the clock does not show; so what later steps
start falls due after what earlier ones have started, and all that is due has happened when a step is over.
-/

namespace Flotilla.Simulation

namespace World

open FanOut (CallId)
open Rpc (Method)

/-! ### Loops -/

/-- A node contacts all its peers and its center; the cycle after this one waits for all contacts. -/
def beat (w : World) (number : Nat) : World :=
  match w.members[number]? with
  | none => w
  | some m =>
    if m.running then
      let contacts := m.node.view.contacts
      let nextBeat := Ticker.next m.nextBeat w.moment m.node.intervals.heartbeat
      let w := w.modifyMember number ({ · with nextBeat, pending := contacts.length })
      if contacts.isEmpty then w.schedule nextBeat m.slot (.beat number)
      else contacts.foldl (fun w c => w.schedule w.moment m.slot (.contact number c)) w
    else w

def evict (w : World) (number : Nat) : World :=
  match w.members[number]? with
  | none => w
  | some m =>
    if m.running then
      let w := w.modifyMember number ({ · with node.view := (m.node.view.evict w.now).1 })
      w.schedule (w.moment + m.node.intervals.eviction) m.slot (.eviction number)
    else w

def sweep (w : World) (number : Nat) : World :=
  match w.hubs[number]? with
  | none => w
  | some hub =>
    if hub.running then
      let w := { w with
        hubs := w.hubs.modify number ({ · with directory := (hub.directory.evict w.now).1 }) }
      w.schedule (w.moment + hub.eviction) hub.slot (.sweep number)
    else w

/-! ### Calls -/

def contact (w : World) (number : Nat) (c : Contact) : World :=
  match w.members[number]? with
  | none => w
  | some m =>
    let this := m.node.this
    let token := m.node.view.cluster.token
    let envelope := (c.request this token w.now).close .cluster token this.cluster this.name
    w.send number m (.contact number c) c.node.identity (c.method w.now) envelope m.slot

/-- A call of a fan-out is made, once there is a slot for it. -/
def operate (w : World) (number : Nat) (c : CallId) : World :=
  match w.members[number]? with
  | none => w
  | some m =>
    let client := m.client.step (.acquire c)
    match client.request? c with
    | none => w
    | some (target, method, envelope) =>
      if c ∈ client.admitted then
        let w := w.modifyMember number ({ · with client := client.step (.send c) })
        let slot := (w.dispatchSlot? number c.number).getD m.slot
        w.send number m (.client number c) target method envelope slot
      else w.modifyMember number ({ · with client })

/-! ### Time -/

def handle (w : World) : Event → World
  | .beat number => w.beat number
  | .eviction number => w.evict number
  | .sweep number => w.sweep number
  | .contact number c => w.contact number c
  | .operation number c => w.operate number c
  | .resume t s => w.resume t s
  | .timeout t => w.land t .timedOut

/-- No more than this many things happen within a span that passes. -/
def eventLimit : Nat := 1000000

/-- All that is due before an instant happens, up to a number of events. -/
def runWithin : Nat → Instant → World → World
  | 0, _, w => w
  | events + 1, horizon, w =>
    match w.agenda.next? horizon with
    | none => w
    | some (first, agenda) =>
      runWithin events horizon ({ w with agenda, moment := first.due }.handle first.what)

def pass (w : World) (time : Span) : World :=
  let horizon := w.moment + time
  { w.runWithin eventLimit horizon with moment := horizon }

/-- The moment that a step takes passes. -/
def settle (w : World) : World := w.pass (Span.millis 1)

def passSecond (w : World) : World := { w with now := w.now + Span.seconds 1 }.pass (Span.seconds 1)

/-- Seconds pass. -/
def advance : Nat → World → World
  | 0, w => w
  | secs + 1, w => advance secs w.passSecond

/-! ### Fan-outs -/

/-- Starts to send a task from a node to targets; gives the number of the fan-out. -/
def startFanOut (w : World) (member : Nat) (task : Task) (targets : List Node) (unknown : List String) :
    World × Nat :=
  match w.members[member]? with
  | none => (w, w.dispatches.size)
  | some m =>
    let (w, slot) := w.takeSlot
    let number := m.client.batches.length
    let client := m.client.step (.start task targets unknown w.now)
    let w := w.modifyMember member ({ · with client })
    let w := { w with dispatches := w.dispatches.push { member, number, slot, since := w.now } }
    let w := (List.range (FanOut.called targets w.now).length).foldl
      (fun w place => w.schedule w.moment slot (.operation member ⟨number, place⟩)) w
    (w.settle, w.dispatches.size - 1)

/-- Lets seconds pass, up to a number, until a fan-out has ended. -/
def awaitWithin : Nat → World → Nat → World × Option FanOut
  | 0, w, _ => (w, none)
  | secs + 1, w, number =>
    match w.dispatches[number]?.map w.result? with
    | some (some result) => (w, some result)
    | some none => awaitWithin secs w.passSecond number
    | none => (w, none)

/-- Lets seconds pass until a fan-out has ended.  Every call ends in time once it has a slot. -/
def await (w : World) (number : Nat) : World × Option FanOut :=
  let batches := w.members.toList.flatMap (·.client.batches)
  let calls := batches.foldl (fun n b => n + b.calls.length) 0
  let longest := (w.members.map fun m => m.node.intervals.rpcTimeout / Span.seconds 1 + 2).foldl max 0
  w.awaitWithin ((calls + 1) * longest + 1) number

end World

end Flotilla.Simulation
