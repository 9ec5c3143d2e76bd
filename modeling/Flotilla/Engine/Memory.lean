import Flotilla.Engine.Basic
import Flotilla.Table

/-!
# An engine in memory

All state is in tables: inbounds by tag, users by tag and email, counters by name, certificates by
domain.  A call that fails leaves the state as it is.
-/

namespace Flotilla

namespace EngineError

def inboundNotFound (tag : String) : EngineError := .notFound ("inbound " ++ tag)

def userExists (email : String) : EngineError := .alreadyExists ("user " ++ email)

def inboundExists (tag : String) : EngineError := .alreadyExists ("inbound " ++ tag)

def portInUse (port : UInt16) : EngineError :=
  .failed ("port " ++ toString port.toNat ++ " is already in use")

def emptyDomain : EngineError := .failed "empty domain"

end EngineError

def Instant.unixSeconds (t : Instant) : Int := t / 1000000000

structure MemoryEngine where
  inbounds : Table Inbound
  users : Table (Table User)
  stats : Table Int64
  certs : Table Cert
  deriving DecidableEq

namespace MemoryEngine

def empty : MemoryEngine := ⟨∅, ∅, ∅, ∅⟩

instance : Inhabited MemoryEngine := ⟨empty⟩

/-! ### Calls -/

/-- What a call does: the state that it leaves behind, and why it fails if it does. -/
structure Effect where
  state : MemoryEngine
  fault? : Option EngineError

namespace Effect

def done (e : MemoryEngine) : Effect := ⟨e, none⟩

def failed (e : MemoryEngine) (fault : EngineError) : Effect := ⟨e, some fault⟩

/-- What is made of the state that is left behind, if the call succeeds. -/
def map {α : Type} (c : Effect) (f : MemoryEngine → α) : Except EngineError α :=
  match c.fault? with
  | none => .ok (f c.state)
  | some fault => .error fault

end Effect

/-! ### Users -/

def usersOf (e : MemoryEngine) (tag : String) : Table User := e.users.getD tag ∅

/-- Why a user cannot be added, if there is a reason. -/
def userFault? (e : MemoryEngine) (u : User) : Option EngineError :=
  if !e.inbounds.contains u.inboundTag then some (.inboundNotFound u.inboundTag)
  else if (e.usersOf u.inboundTag).contains u.email then some (.userExists u.email)
  else none

def putUser (e : MemoryEngine) (u : User) : MemoryEngine :=
  { e with users := e.users.insert u.inboundTag ((e.usersOf u.inboundTag).insert u.email u) }

/-- Adds users, unless one of them has no inbound or is there already. -/
def addUsers (e : MemoryEngine) (users : List User) : Effect :=
  match users.findSome? e.userFault? with
  | some fault => .failed e fault
  | none => .done (users.foldl putUser e)

/-- Removes the users with these emails from an inbound that has, or had, users. -/
def removeUsers (e : MemoryEngine) (tag : String) (emails : List String) : Effect :=
  match e.users[tag]? with
  | none => .failed e (.inboundNotFound tag)
  | some users => .done { e with users := e.users.insert tag (emails.foldl (·.erase ·) users) }

/-- The users of an inbound in the order of their emails. -/
def getUsers (e : MemoryEngine) (tag : String) : Except EngineError (List User) :=
  if e.inbounds.contains tag then .ok (e.usersOf tag).values else .error (.inboundNotFound tag)

def userCount (e : MemoryEngine) : Nat := e.users.values.foldl (fun n t => n + t.size) 0

/-! ### Inbounds -/

/-- Adds an inbound with a new tag and a new port. -/
def addInbound (e : MemoryEngine) (i : Inbound) : Effect :=
  if e.inbounds.contains i.tag then .failed e (.inboundExists i.tag)
  else if e.inbounds.values.any (·.port == i.port) then .failed e (.portInUse i.port)
  else .done { e with inbounds := e.inbounds.insert i.tag i }

/-- Deletes an inbound and its users.  The inbound is taken out first; then the call fails if there was
none. -/
def deleteInbound (e : MemoryEngine) (tag : String) : Effect :=
  let left := { e with inbounds := e.inbounds.erase tag }
  if e.inbounds.contains tag then .done { left with users := left.users.erase tag }
  else .failed left (.inboundNotFound tag)

/-! ### Traffic counters -/

/-- Adds to a counter, which starts at zero. -/
def recordTraffic (e : MemoryEngine) (name : String) (delta : Int64) : MemoryEngine :=
  { e with stats := e.stats.insert name (e.stats.getD name 0 + delta) }

def occursIn (pattern : List Char) : List Char → Bool
  | [] => pattern.isEmpty
  | c :: cs => pattern.isPrefixOf (c :: cs) || occursIn pattern cs

def containsPattern (pattern name : String) : Bool := occursIn pattern.toList name.toList

/-- The counters whose name contains a pattern, in the order of their names. -/
def statsMatching (e : MemoryEngine) (pattern : String) : List Stat :=
  (e.stats.toList.filter fun s => containsPattern pattern s.1).map fun s => ⟨s.1, s.2⟩

/-- The counters whose name contains a pattern; `reset` sets them to zero. -/
def queryStats (e : MemoryEngine) (pattern : String) (reset : Bool) : MemoryEngine × List Stat :=
  let zeroed := e.stats.map fun name value => if containsPattern pattern name then 0 else value
  (if reset then { e with stats := zeroed } else e, e.statsMatching pattern)

/-! ### Certificates -/

/-- How many seconds a certificate is valid. -/
def certLifetime : Int := 90 * 24 * 3600

/-- A certificate for a domain that is valid from now on. -/
def issueCert (domain : String) (now : Instant) : Cert :=
  ⟨domain, Int64.ofInt now.unixSeconds, Int64.ofInt (now.unixSeconds + certLifetime)⟩

/-- Obtains a certificate for a domain; it takes the place of an older one. -/
def obtainCert (e : MemoryEngine) (domain : String) (now : Instant) :
    Except EngineError (MemoryEngine × Cert) :=
  if domain = "" then .error .emptyDomain
  else
    let cert := issueCert domain now
    .ok ({ e with certs := e.certs.insert domain cert }, cert)

def getCert (e : MemoryEngine) (domain : String) : Option Cert := e.certs[domain]?

/-- All certificates in the order of their domains. -/
def allCerts (e : MemoryEngine) : List Cert := e.certs.values

/-! ### As the engine of a node -/

/-- What a call leaves behind, and a value if it succeeds. -/
def Effect.giving {α : Type} (c : Effect) (a : α) : MemoryEngine × Except EngineError α :=
  (c.state, c.map fun _ => a)

instance : ProxyEngine MemoryEngine where
  addUsers users _ e := (e.addUsers users).giving ()
  removeUsers tag emails _ e := (e.removeUsers tag emails).giving ()
  getUsers tag _ e := (e, e.getUsers tag)
  addInbound inbound _ e := (e.addInbound inbound).giving ()
  deleteInbound tag _ e := (e.deleteInbound tag).giving ()
  queryStats pattern reset _ e :=
    let (e, stats) := e.queryStats pattern reset
    (e, .ok stats)

instance : CertManager MemoryEngine where
  obtainCert domain now e :=
    match e.obtainCert domain now with
    | .error fault => (e, .error fault)
    | .ok (e, cert) => (e, .ok cert)
  getCert domain _ e := (e, .ok (e.getCert domain))
  allCerts _ e := (e, .ok e.allCerts)

end MemoryEngine

end Flotilla
