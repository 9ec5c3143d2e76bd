import Flotilla.Client
import Flotilla.Contact
import Flotilla.Engine.Memory
import Flotilla.Service.Node
import Flotilla.Simulation.Agenda
import Flotilla.Simulation.Record
import Flotilla.Simulation.Script
import Flotilla.Ticker
import Flotilla.Token

/-!
# Worlds

A world holds end nodes, centers and scripted peers, which reach each other by address, and a clock that
counts whole seconds.  What falls between two seconds happens in the order of its exact time, while the
clock already shows the later one.  Nodes are numbered in the order in which they were built; a node that is built
again under the same name is another one.
-/

namespace Flotilla.Simulation

open FanOut (CallId Client)
open Rpc (Answer Channels Method)

/-! ### Calls on their way -/

/-- Who waits for the answer to a call. -/
inductive Caller where
  | contact (member : Nat) (c : Contact)
  | client (member : Nat) (c : CallId)
  deriving Inhabited

/-- A call on its way. -/
structure Transit where
  caller : Caller
  /-- The name of the calling node. -/
  sender : String
  target : Identity
  method : Method
  envelope : Envelope
  /-- The address that is called. -/
  address : String
  /-- The channel over which it goes, if channels are used. -/
  endpoint : Option (Nat × Endpoint)
  deadline : Instant
  slot : Nat
  deriving Inhabited

/-- Where a call is held up. -/
inductive Stage where
  | onLink (fate : Fate)
  | atScript (number : Nat) (act : Act)

/-- What is to happen. -/
inductive Event where
  /-- A node starts a heartbeat cycle. -/
  | beat (member : Nat)
  /-- A node drops stale peers. -/
  | eviction (member : Nat)
  /-- A center drops stale nodes. -/
  | sweep (hub : Nat)
  /-- A node contacts a peer. -/
  | contact (member : Nat) (c : Contact)
  /-- A call of a fan-out asks for a slot, or has got it. -/
  | operation (member : Nat) (c : CallId)
  /-- A call that was held up goes on. -/
  | resume (t : Transit) (s : Stage)
  /-- A call has not been answered in time. -/
  | timeout (t : Transit)

/-! ### Inhabitants -/

/-- What the end nodes of a world have for an engine, if they have one. -/
abbrev WorldEngine := Unconfigured ⊕ MemoryEngine

instance : Inhabited WorldEngine := ⟨.inl default⟩

structure Member where
  node : EndNode WorldEngine
  slot : Nat
  /-- The fan-outs of the node. -/
  client : Client
  /-- The open channels, if the node uses channels. -/
  channels : Option Channels
  /-- The loops have not been stopped. -/
  running : Bool
  /-- When the next heartbeat cycle is due. -/
  nextBeat : Instant
  /-- How many contacts of the current cycle have not ended. -/
  pending : Nat
  deriving Inhabited

/-- The slots for calls of fan-outs. -/
def Member.limiter (m : Member) : Limiter CallId := m.client.limiter

structure Hub where
  directory : Directory
  eviction : Span
  slot : Nat
  address : String
  running : Bool
  deriving Inhabited

inductive Actor where
  | member (number : Nat)
  | hub (number : Nat)
  deriving DecidableEq, Inhabited

/-- What is served at an address. -/
inductive Site where
  | actor (a : Actor)
  | script (number : Nat)
  deriving DecidableEq, Inhabited

/-- A fan-out of an end node, by its number there. -/
structure Dispatch where
  member : Nat
  number : Nat
  since : Instant
  slot : Nat
  deriving Inhabited

/-! ### The world -/

/-- All that there is. -/
structure World where
  start : Instant
  /-- What the clock shows, in whole seconds from the start. -/
  now : Instant
  /-- The exact time, by which things happen one after the other. -/
  moment : Instant
  agenda : Agenda Event
  /-- The number of the next slot. -/
  nextSlot : Nat
  members : Array Member
  hubs : Array Hub
  scripts : Array Script
  dispatches : Array Dispatch
  /-- The nodes and centers by name. -/
  actors : Table Actor
  /-- What is served, by address. -/
  sites : Table Site
  /-- The faulty links from a node, by name, to a peer, by name, or by address where channels are used. -/
  faults : List ((String × String) × Behaviour)
  /-- How many tokens have been drawn. -/
  drawn : Nat
  issues : List Issue
  calls : List CallRecord
  dials : List DialRecord

namespace World

def empty (now : Instant) : World where
  start := now
  now := now
  moment := now
  agenda := .empty
  nextSlot := 0
  members := #[]
  hubs := #[]
  scripts := #[]
  dispatches := #[]
  actors := ∅
  sites := ∅
  faults := []
  drawn := 0
  issues := []
  calls := []
  dials := []

instance : Inhabited World := ⟨empty 0⟩

def secondsSince (start now : Instant) : Int := (now - start) / 1000000000

def second (w : World) : Int := secondsSince w.start w.now

def takeSlot (w : World) : World × Nat := ({ w with nextSlot := w.nextSlot + 1 }, w.nextSlot)

/-- Enters what is to happen; nothing happens in the past. -/
def schedule (w : World) (due : Instant) (slot : Nat) (e : Event) : World :=
  { w with agenda := w.agenda.add ⟨max due w.moment, slot, e⟩ }

def modifyMember (w : World) (number : Nat) (f : Member → Member) : World :=
  { w with members := w.members.modify number f }

def faultOn (w : World) (sender target : String) : Option Behaviour := w.faults.lookup (sender, target)

/-- Breaks a link, or heals it. -/
def setFault (w : World) (sender target : String) (fault : Option Behaviour) : World :=
  let others := w.faults.filter fun f => f.1 ≠ (sender, target)
  { w with faults := match fault with
    | some b => ((sender, target), b) :: others
    | none => others }

def member? (w : World) (name : String) : Option (Nat × Member) := do
  match w.actors[name]? with
  | some (.member number) => return (number, ← w.members[number]?)
  | _ => none

def hub? (w : World) (name : String) : Option (Nat × Hub) := do
  match w.actors[name]? with
  | some (.hub number) => return (number, ← w.hubs[number]?)
  | _ => none

def result? (w : World) (d : Dispatch) : Option FanOut :=
  (w.members[d.member]?).bind (·.client.result? d.number)

/-- The slot on the agenda of a fan-out, by its number at its node. -/
def dispatchSlot? (w : World) (member number : Nat) : Option Nat :=
  (w.dispatches.find? fun d => d.member == member && d.number == number).map (·.slot)

/-- Changes the node with a number and gives what the change gives. -/
def editNode {ρ : Type} (w : World) (number : Nat) (m : Member)
    (f : EndNode WorldEngine → EndNode WorldEngine × ρ) :
    World × ρ :=
  let (node, result) := f m.node
  (w.modifyMember number ({ · with node }), result)

/-! ### Serving -/

def holderOf? (c : Cluster) (token : String) : Option String :=
  (c.nodes.entries.toList.find? fun e => e.2.inToken == token).map (·.1)

def note (w : World) (issuer token : String) (c : Option Cluster) : World :=
  match c.bind fun c => (holderOf? c token).map (⟨token, issuer, c.name, ·⟩) with
  | some issue => { w with issues := w.issues ++ [issue] }
  | none => w

/-- Answers a call at an end node or center. -/
def serve (w : World) (a : Actor) (m : Method) (e : Envelope) : World × Answer :=
  let fresh := Token.draw w.drawn
  let drawn := if m = .register then w.drawn + 1 else w.drawn
  match a with
  | .member number =>
    match w.members[number]? with
    | none => (w, .error Rpc.refused)
    | some inhabitant =>
      let (node, answer) := inhabitant.node.serve m e fresh w.now
      let w := { w.modifyMember number ({ · with node }) with drawn }
      (w.note node.this.name fresh (some node.view.cluster), answer)
  | .hub number =>
    match w.hubs[number]? with
    | none => (w, .error Rpc.refused)
    | some hub =>
      let (directory, answer) := hub.directory.serve m e fresh w.now
      let w := { w with hubs := w.hubs.modify number ({ · with directory }), drawn }
      (w.note directory.name fresh (directory.get? e.cluster), answer)

def call (w : World) (address : String) (m : Method) (e : Envelope) : World × Answer :=
  match w.sites[address]? with
  | some (.actor a) => w.serve a m e
  | _ => (w, .error Rpc.refused)

end World

end Flotilla.Simulation
