import Flotilla.Cluster.Basic

/-!
# Registration

A node that proves it belongs to the cluster is issued a token.  A node that already holds a live
token gets the same one again.  Looking up a known record and storing a new one are two separate
steps on the roster: an attempt that finds no record, and then finds the name taken, looks again.
-/

namespace Flotilla

structure Registration where
  /-- What the node has to present from now on. -/
  token : String
  /-- The node held a live token, which stays. -/
  alreadyRegistered : Bool
  deriving DecidableEq, Repr

def Registration.code (r : Registration) : ResponseCode :=
  if r.alreadyRegistered then .alreadyRegistered else .ok

namespace Cluster

/-! ### Admission -/

def belongs (c : Cluster) (name token : String) : Except RegisterError Unit :=
  if name ≠ c.name ∨ token ≠ c.token then .error (.wrongCluster name) else .ok ()

/-- The checks before the roster is consulted.  A node with the wrong credentials is put into
quarantine, one with the right ones is taken out of it. -/
def screen (c : Cluster) (claimed : Identity) (token server : String) (now : Instant) :
    Cluster × Except RegisterError Unit :=
  if claimed.host = "" ∨ claimed.port = 0 then
    (c, .error (.invalidAddress claimed.host claimed.port.toUInt32))
  else if claimed.name = server then (c, .error (.sameNameAsServer claimed.name))
  else
    match c.belongs claimed.cluster token with
    | .error e => (c.isolate claimed now, .error e)
    | .ok () => (c.release claimed.name, .ok ())

/-! ### Steps on the roster -/

/-- The decision on a known record: a live token stays, and else `fresh` takes its place. -/
def reregister (claimed : Identity) (fresh : String) (now : Instant) (node : Node) :
    Node × Except RegisterError Registration :=
  if node.identity ≠ claimed then (node, .error (.nameCollision claimed.name))
  else if node.registeredLocalAt now then (heard now node, .ok ⟨node.inToken, true⟩)
  else (heard now { node with inToken := fresh }, .ok ⟨fresh, false⟩)

/-- Registers a node whose name is known; gives nothing if it is not. -/
def renew? (nodes : Roster) (claimed : Identity) (fresh : String) (now : Instant) :
    Option (Roster × Except RegisterError Registration) :=
  nodes.modify? claimed.name (reregister claimed fresh now)

/-- Registers a node whose name is not known; gives nothing if it is. -/
def enroll? (nodes : Roster) (claimed : Identity) (fresh : String) (now : Instant) :
    Option (Roster × Registration) :=
  (nodes.insertIfAbsent? claimed.name (.registered claimed fresh now)).map (·, ⟨fresh, false⟩)

/-- Registers a node without a pause between the steps. -/
def register (c : Cluster) (claimed : Identity) (token server fresh : String) (now : Instant) :
    Cluster × Except RegisterError Registration :=
  match c.screen claimed token server now with
  | (c, .error e) => (c, .error e)
  | (c, .ok ()) =>
    match renew? c.nodes claimed fresh now with
    | some (nodes, result) => ({ c with nodes }, result)
    | none =>
      ({ c with nodes := c.nodes.insert claimed.name (.registered claimed fresh now) },
        .ok ⟨fresh, false⟩)

/-! ### Registrations that take turns -/

/-- What a node says when it registers with a server. -/
structure Claim where
  identity : Identity
  token : String
  server : String
  deriving DecidableEq

/-- How far an attempt to register has come. -/
inductive Attempt where
  | arriving
  | renewing
  | enrolling
  | finished (result : Except RegisterError Registration)

namespace Attempt

/-- One step of an attempt; `fresh` is the token to issue if one is needed. -/
def step (claim : Claim) (fresh : String) (now : Instant) (c : Cluster) : Attempt → Cluster × Attempt
  | .arriving =>
    match c.screen claim.identity claim.token claim.server now with
    | (c, .ok ()) => (c, .renewing)
    | (c, .error e) => (c, .finished (.error e))
  | .renewing =>
    match renew? c.nodes claim.identity fresh now with
    | some (nodes, result) => ({ c with nodes }, .finished result)
    | none => (c, .enrolling)
  | .enrolling =>
    match enroll? c.nodes claim.identity fresh now with
    | some (nodes, r) => ({ c with nodes }, .finished (.ok r))
    | none => (c, .renewing)
  | .finished result => (c, .finished result)

/-- How many rounds of the loop begin with a step. -/
def begins : Attempt → Nat
  | .renewing => 1
  | _ => 0

def result? : Attempt → Option (Except RegisterError Registration)
  | .finished result => some result
  | _ => none

/-- The attempt was given a token that nobody had before. -/
def isFresh : Attempt → Bool
  | .finished (.ok r) => !r.alreadyRegistered
  | _ => false

end Attempt

/-- A registration under way, with the number of rounds of the loop that it has begun. -/
structure Call where
  claim : Claim
  attempt : Attempt := .arriving
  rounds : Nat := 0

def Call.turn (fresh : String) (now : Instant) (c : Cluster) (call : Call) : Cluster × Call :=
  let (c, attempt) := call.attempt.step call.claim fresh now c
  (c, { call with attempt, rounds := call.rounds + call.attempt.begins })

/-- A cluster and the registrations under way. -/
structure Race where
  cluster : Cluster
  calls : List Call

namespace Race

/-- Registrations that have not begun yet. -/
def start (c : Cluster) (claims : List Claim) : Race := ⟨c, claims.map fun claim => { claim }⟩

/-- One of the registrations takes a step; the token that it may have to issue comes with the turn. -/
def turn (now : Instant) (r : Race) (move : Nat × String) : Race :=
  match r.calls[move.1]? with
  | none => r
  | some call =>
    let (cluster, call) := call.turn move.2 now r.cluster
    ⟨cluster, r.calls.set move.1 call⟩

def play (now : Instant) (r : Race) (moves : List (Nat × String)) : Race := moves.foldl (turn now) r

end Race

/-- Registers nodes whose attempts take turns in order, each with the token to issue if one is needed.
After four turns each attempt has finished. -/
def registerTogether (c : Cluster) (claims : List (Identity × String)) (token server : String)
    (now : Instant) : Cluster × List (Option (Except RegisterError Registration)) :=
  let moves := claims.mapIdx fun i claim => (i, claim.2)
  let race := (Race.start c (claims.map fun claim => ⟨claim.1, token, server⟩)).play now
    (moves ++ moves ++ moves ++ moves)
  (race.cluster, race.calls.map (·.attempt.result?))

end Cluster

end Flotilla
