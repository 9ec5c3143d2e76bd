import Flotilla.Cluster.Registration

/-!
# Directories of clusters

A center serves several clusters, which know nothing of each other.
-/

namespace Flotilla

/-- The clusters that a center serves, by name. -/
structure Directory where
  name : String
  clusters : Table Cluster
  deriving DecidableEq

namespace Directory

def new (name : String) : Directory := ⟨name, ∅⟩

instance : Inhabited Directory := ⟨new ""⟩

def get? (d : Directory) (cluster : String) : Option Cluster := d.clusters[cluster]?

/-- Starts to serve a cluster; one of the same name is kept as it is. -/
def add (d : Directory) (name token : String) : Directory :=
  { d with clusters := d.clusters.insertIfNew name (.new name token) }

def put (d : Directory) (name : String) (c : Cluster) : Directory :=
  { d with clusters := d.clusters.insert name c }

def names (d : Directory) : List String := d.clusters.keys

/-- Drops stale nodes from every cluster; gives how many were dropped. -/
def evict (d : Directory) (now : Instant) : Directory × Nat :=
  ({ d with clusters := d.clusters.map fun _ c => (c.evictStale now).1 },
    d.clusters.values.foldl (fun n c => n + (c.evictStale now).2.length) 0)

end Directory

end Flotilla
