import Flotilla.Simulation.Clock

/-!
# Populations

How nodes, centers and scripted peers come into a world, and how they leave it.
-/

namespace Flotilla.Simulation.World

/-- The loops of a node or center stop; it still answers. -/
def stop (w : World) : Actor → World
  | .member number => w.modifyMember number ({ · with running := false })
  | .hub number => { w with hubs := w.hubs.modify number ({ · with running := false }) }

/-- The loops of the node or center with a name stop. -/
def stopNamed (w : World) (name : String) : World :=
  match w.actors[name]? with
  | some a => w.stop a
  | none => w

/-- Makes an end node or center known by a name and serves it at an address.  Another one of that name
stops, but is still served where it was. -/
def settleIn (w : World) (name address : String) (a : Actor) : World :=
  let w := w.stopNamed name
  { w with actors := w.actors.insert name a, sites := w.sites.insert address (.actor a) }

/-- Adds an end node, which starts its loops; `dialled` says whether it uses channels. -/
def addNode (w : World) (node : EndNode WorldEngine) (dialled : Bool) : World :=
  let (w, slot) := w.takeSlot
  let number := w.members.size
  let member : Member :=
    { node, slot
      client := .new node.this node.limit node.intervals.rpcTimeout
      channels := if dialled then some .empty else none
      running := true
      nextBeat := w.moment
      pending := 0 }
  let w := { w with members := w.members.push member }
  let w := w.settleIn node.this.name node.this.address (.member number)
  let w := w.schedule w.moment slot (.beat number)
  w.schedule w.moment slot (.eviction number)

/-- Adds a center, which starts its loop. -/
def addCenter (w : World) (directory : Directory) (eviction : Span) (address : String) : World :=
  let (w, slot) := w.takeSlot
  let number := w.hubs.size
  let w := { w with hubs := w.hubs.push { directory, eviction, slot, address, running := true } }
  let w := w.settleIn directory.name address (.hub number)
  w.schedule w.moment slot (.sweep number)

def addScript (w : World) (address : String) (script : Script) : World :=
  { w with
    scripts := w.scripts.push script
    sites := w.sites.insert address (.script w.scripts.size) }

/-- The address of an end node or center. -/
def addressOf (w : World) : Actor → Option String
  | .member number => w.members[number]?.map (·.node.this.address)
  | .hub number => w.hubs[number]?.map (·.address)

/-- The end node or center with a name is gone, and nothing is served at its address any more. -/
def remove (w : World) (name : String) : World :=
  match w.actors[name]? with
  | none => w
  | some a =>
    let w := w.stop a
    { w with
      actors := w.actors.erase name
      sites := match w.addressOf a with
        | some address => w.sites.erase address
        | none => w.sites }

def script? (w : World) (address : String) : Option (Nat × Script) := do
  match w.sites[address]? with
  | some (.script number) => return (number, ← w.scripts[number]?)
  | _ => none

/-! ### Looking and forgetting -/

/-- The calls since the last look. -/
def takeCalls (w : World) : World × List CallRecord := ({ w with calls := [] }, w.calls)

/-- The channels dialled since the last look. -/
def takeDials (w : World) : World × List DialRecord := ({ w with dials := [] }, w.dials)

/-- What the scripted peer at an address received since the last look. -/
def takeReceived (w : World) (address : String) : World × Option (Script × List Received) :=
  match w.script? address with
  | none => (w, none)
  | some (number, script) =>
    ({ w with scripts := w.scripts.setIfInBounds number { script with received := [] } },
      some (script, script.received.reverse))

end Flotilla.Simulation.World
