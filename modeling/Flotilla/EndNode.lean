import Flotilla.Settings

/-!
# Editing the static peers of a running node

A static peer that is added or deleted at runtime is written to the store first, if there is one, and
then to the roster.  A known peer with the same identity is marked as local and keeps its tokens.
-/

namespace Flotilla

namespace Store

def without (name : String) (entries : List StaticNode) : List StaticNode :=
  entries.filter fun e => e.name != name

/-- Sets the list of static peers and flushes it.  The list stays set if it cannot be flushed. -/
def saveStatic (s : Store) (entries : List StaticNode) : Store × Except ConfigError Unit :=
  match s.setStatic staticKey entries with
  | .error e => (s, .error e)
  | .ok s =>
    match s.flush with
    | .error e => (s, .error e)
    | .ok s => (s, .ok ())

/-- Stores an entry at the end of the list, in place of one with the same name. -/
def addStatic (s : Store) (e : StaticNode) : Store × Except ConfigError Unit :=
  match s.staticList with
  | .error fault => (s, .error fault)
  | .ok entries => s.saveStatic (without e.name entries ++ [e])

/-- Removes the entries of a name from the list; a list without it is not written. -/
def removeStatic (s : Store) (name : String) : Store × Except ConfigError Unit :=
  match s.staticList with
  | .error fault => (s, .error fault)
  | .ok entries =>
    let rest := without name entries
    if rest.length = entries.length then (s, .ok ()) else s.saveStatic rest

end Store

namespace Roster

/-- Marks a record as local if it has this identity; says whether it did. -/
def promote (identity : Identity) (node : Node) : Node × Bool :=
  if node.identity = identity then ({ node with isLocal := true }, true) else (node, false)

/-- Makes a known peer of this identity local; gives nothing if there is none. -/
def promote? (r : Roster) (identity : Identity) : Roster × Bool :=
  match r.modify? identity.name (promote identity) with
  | some (r, same) => (r, same)
  | none => (r, false)

/-- Makes a known peer local, or stores a new record in the place of any other one. -/
def placeLocal (r : Roster) (identity : Identity) (now : Instant) : Roster :=
  match r.promote? identity with
  | (r, true) => r
  | (r, false) => r.insert identity.name (.fixed identity now)

end Roster

namespace EndNode

variable {σ : Type}

def this (n : EndNode σ) : Identity := n.view.this

def editStore (n : EndNode σ) (edit : Store → Store × Except ConfigError Unit) :
    EndNode σ × Except ConfigError Unit :=
  match n.store with
  | none => (n, .ok ())
  | some s =>
    let (s, result) := edit s
    ({ n with store := some s }, result)

def addLocal (n : EndNode σ) (e : StaticNode) (now : Instant) : EndNode σ × Except ConfigError Unit :=
  match e.fault? n.this with
  | some fault => (n, .error (.staticNode e.name fault))
  | none =>
    match n.editStore (·.addStatic e) with
    | (n, .error fault) => (n, .error fault)
    | (n, .ok ()) =>
      ({ n with view.cluster.nodes := n.view.cluster.nodes.placeLocal (e.identity n.this) now },
        .ok ())

/-- Forgets a peer; gives its record, if there was one. -/
def deleteNode (n : EndNode σ) (name : String) : EndNode σ × Except ConfigError (Option Node) :=
  match n.editStore (·.removeStatic name) with
  | (n, .error fault) => (n, .error fault)
  | (n, .ok ()) =>
    ({ n with view.cluster.nodes := n.view.cluster.nodes.erase name },
      .ok (n.view.cluster.nodes.get? name))

/-- The center this node reports to, if there is one. -/
def center? (n : EndNode σ) : Option Node := n.view.center.nodes.head?

end EndNode

end Flotilla
