import Flotilla.Config.Store
import Flotilla.Directory
import Flotilla.Operation
import Flotilla.PeerView

/-!
# Settings

The settings of end nodes and centers, where they come from, and what is checked before a node is
built from them.  The heartbeat interval has to leave room for three missed beats.
-/

namespace Flotilla

inductive BuildError where
  | config (e : ConfigError)
  /-- A number is beyond what the node can count with. -/
  | outOfRange
  deriving DecidableEq

/-! ### Reading numbers from a store -/

namespace Store

def getPort (s : Store) (key : String) : Except ConfigError UInt16 := do
  let port ← s.getInt key
  if 1 ≤ port.toInt ∧ port.toInt < 65536 then return UInt16.ofNat port.toInt.toNat
  else .error (.identity (.badPort key port.toInt))

def getPositive? (s : Store) (key : String) : Except ConfigError (Option Nat) :=
  match s.getInt key with
  | .ok n =>
    if n.toInt > 0 then .ok (some n.toInt.toNat)
    else .error (.intervals (.notPositive key n.toInt))
  | .error (.missingKey _) => .ok none
  | .error e => .error e

def getSeconds (s : Store) (key : String) (default : Span) : Except ConfigError Span := do
  match ← s.getPositive? key with
  | some n => return Span.seconds n
  | none => return default

end Store

/-! ### Intervals -/

/-- How often a node sends heartbeats and evicts, and how long it waits for a reply. -/
structure Intervals where
  heartbeat : Span
  eviction : Span
  rpcTimeout : Span
  deriving DecidableEq, Inhabited, Repr

namespace Intervals

/-- The intervals of a node that is not told others. -/
def standard : Intervals := ⟨.seconds 10, .seconds 15, .seconds 3⟩

/-- How many beats in a row may be missed before a peer times out. -/
def missedBeats : Nat := 3

/-- Spans of so many nanoseconds cannot be counted. -/
def spanLimit : Nat := Word.size64 * 1000000000

/-- The first fault of the intervals, if there is one. -/
def check (i : Intervals) : Except BuildError Unit :=
  if i.heartbeat = 0 ∨ i.eviction = 0 ∨ i.rpcTimeout = 0 then .error (.config (.intervals .zero))
  else if i.heartbeat * missedBeats ≥ spanLimit then .error .outOfRange
  else if Span.exceeds (i.heartbeat * missedBeats) heartbeatTimeout then
    .error (.config (.intervals (.heartbeatTooLong i.heartbeat)))
  else if i.rpcTimeout ≥ i.heartbeat then
    .error (.config (.intervals (.timeoutTooLong i.rpcTimeout i.heartbeat)))
  else .ok ()

end Intervals

/-! ### End nodes -/

/-- The first fault of a node's own identity, if there is one. -/
def Identity.check (this : Identity) : Except ConfigError Unit :=
  if this.name = "" then .error (.identity .emptyNodeName)
  else if this.host = "" ∨ this.port = 0 then .error (.identity (.badAddress this.address))
  else if this.cluster = "" then .error (.identity .emptyClusterName)
  else .ok ()

/-- What an end node is built from. -/
structure Settings (σ : Type) where
  this : Identity
  clusterToken : String
  staticNodes : List StaticNode
  center : Option Identity
  intervals : Intervals
  /-- How many operation calls may be under way at once. -/
  maxInFlight : Nat
  /-- What carries out operations.  It acts as a proxy engine and as a certificate manager, as a pair of an
  engine and a manager does that have nothing to do with each other. -/
  engine : σ
  store : Option Store
  deriving Inhabited

/-- A node that is built and may be run. -/
structure EndNode (σ : Type) where
  view : PeerView
  intervals : Intervals
  /-- How many operation calls may be under way at once. -/
  limit : Nat
  /-- What carries out operations. -/
  engine : σ
  store : Option Store
  deriving Inhabited

namespace Settings

variable {σ : Type}

/-- Settings with nothing chosen but the identity, the token of the cluster and the engine. -/
def new (this : Identity) (clusterToken : String) (engine : σ) : Settings σ :=
  ⟨this, clusterToken, [], none, .standard, 64, engine, none⟩

def centerOf (s : Store) (cluster : String) : Except ConfigError (Option Identity) := do
  if (s.get? "center").isNone then return none
  let name ← s.getText "center.name"
  let host ← s.getText "center.host"
  let port ← s.getPort "center.port"
  return some ⟨name, host, port, cluster⟩

/-- The settings in a store, which is kept, for a node with an engine. -/
def ofStore (s : Store) (engine : σ) : Except ConfigError (Settings σ) := do
  let name ← s.getText "node.name"
  let host ← s.getText "node.host"
  let port ← s.getPort "node.port"
  let cluster ← s.getText "cluster.name"
  let token ← s.getText "cluster.token"
  let base := new ⟨name, host, port, cluster⟩ token engine
  let center ← centerOf s cluster
  let heartbeat ← s.getSeconds "membership.heartbeat_interval_secs" base.intervals.heartbeat
  let eviction ← s.getSeconds "membership.eviction_interval_secs" base.intervals.eviction
  let rpcTimeout ← s.getSeconds "membership.rpc_timeout_secs" base.intervals.rpcTimeout
  let limit ← s.getPositive? "membership.max_in_flight"
  return { base with
    center
    intervals := ⟨heartbeat, eviction, rpcTimeout⟩
    maxInFlight := limit.getD base.maxInFlight
    store := some s }

/-- The greatest number of calls that can be counted. -/
def maxLimit : Nat := 2305843009213693951

def loadPeers (s : Settings σ) (now : Instant) : Except ConfigError Roster := do
  let nodes ← Roster.empty.loadEntries s.staticNodes s.this now
  match s.store with
  | some store => return (← nodes.loadStore store s.this now).1
  | none => return nodes

def placeCenter (s : Settings σ) (v : PeerView) (now : Instant) : Except ConfigError PeerView :=
  match s.center with
  | none => .ok v
  | some center =>
    if center.name = s.this.name ∨ center.host = "" ∨ center.port = 0 then
      .error (.identity (.badCenter center))
    else .ok (v.setCenter center now)

/-- Builds a node, unless there is a fault in its settings or in what the store lists. -/
def build (s : Settings σ) (now : Instant) : Except BuildError (EndNode σ) := do
  s.this.check.mapError .config
  s.intervals.check
  let nodes ← (s.loadPeers now).mapError .config
  let view := { PeerView.new s.this s.clusterToken with cluster.nodes := nodes }
  let view ← (s.placeCenter view now).mapError .config
  if max s.maxInFlight 1 > maxLimit then .error .outOfRange
  else return ⟨view, s.intervals, max s.maxInFlight 1, s.engine, s.store⟩

end Settings

/-! ### Centers -/

structure CenterSettings where
  name : String
  clusters : List Credentials
  eviction : Span
  deriving DecidableEq, Inhabited

namespace CenterSettings

def new (name : String) : CenterSettings := ⟨name, [], Intervals.standard.eviction⟩

def ofStore (s : Store) : Except ConfigError CenterSettings := do
  let base := new (← s.getText "center.name")
  let clusters ← s.getCredentials "clusters"
  let eviction ← s.getSeconds "membership.eviction_interval_secs" base.eviction
  return { base with clusters, eviction }

def build (s : CenterSettings) : Except ConfigError Directory :=
  if s.name = "" then .error (.identity .emptyCenterName)
  else if s.eviction = 0 then .error (.intervals .zeroEviction)
  else if s.clusters.any (·.name == "") then .error (.identity .emptyClusterName)
  else .ok (s.clusters.foldl (fun d c => d.add c.name c.token) (.new s.name))

end CenterSettings

end Flotilla
