import Flotilla.Node.Static
import Flotilla.Table

/-!
# Rosters

A roster is a table of records with a revision that every change moves on by one.  Eviction works in
two phases, a scan and a commit, so that other changes may come between them; the revision tells
whether any did.  It is a machine word, so it comes back to where it was after 2^64 changes.
-/

namespace Flotilla

/-- A table of records under names, with the number of changes made to it modulo 2^64. -/
structure Roster where
  entries : Table Node
  revision : UInt64
  deriving DecidableEq

namespace Roster

def empty : Roster := ⟨∅, 0⟩

instance : Inhabited Roster := ⟨empty⟩

/-! ### Questions -/

def get? (r : Roster) (key : String) : Option Node := r.entries[key]?

def contains (r : Roster) (key : String) : Bool := r.entries.contains key

def names (r : Roster) : List String := r.entries.keys

/-- The records in the order of the names they are stored under. -/
def nodes (r : Roster) : List Node := r.entries.values

/-- The records that satisfy a predicate. -/
def select (r : Roster) (keep : Node → Bool) : List Node := r.nodes.filter keep

theorem mem_nodes {r : Roster} {node : Node} :
    node ∈ r.nodes ↔ ∃ key, r.get? key = some node :=
  Table.mem_values

/-! ### Changes to one entry -/

def insert (r : Roster) (key : String) (node : Node) : Roster :=
  ⟨r.entries.insert key node, r.revision + 1⟩

/-- Removes the record under a name, if there is one. -/
def erase (r : Roster) (key : String) : Roster :=
  if r.contains key then ⟨r.entries.erase key, r.revision + 1⟩ else r

/-- Decides on the record under a name and changes it in one step; gives nothing if there is none. -/
def modify? {ρ : Type} (r : Roster) (key : String) (f : Node → Node × ρ) : Option (Roster × ρ) :=
  match r.get? key with
  | none => none
  | some node => some (⟨r.entries.insert key (f node).1, r.revision + 1⟩, (f node).2)

/-- Changes the record under a name, if there is one. -/
def update (r : Roster) (key : String) (f : Node → Node) : Roster :=
  match r.modify? key fun node => (f node, ()) with
  | none => r
  | some (r', _) => r'

/-- Stores a record under a name that is not taken; gives nothing if it is. -/
def insertIfAbsent? (r : Roster) (key : String) (node : Node) : Option Roster :=
  if r.contains key then none else some (r.insert key node)

/-- Stores a record under a name unless the name is taken. -/
def insertIfAbsent (r : Roster) (key : String) (node : Node) : Roster :=
  (r.insertIfAbsent? key node).getD r

/-! ### What the changes do to a record -/

@[simp] theorem get?_empty (name : String) : empty.get? name = none := by simp [empty, get?]

theorem contains_eq_isSome (r : Roster) (key : String) : r.contains key = (r.get? key).isSome := by
  simp [contains, get?]

@[simp] theorem get?_insert (r : Roster) (key name : String) (node : Node) :
    (r.insert key node).get? name = if key = name then some node else r.get? name := by
  simp [insert, get?, Std.ExtTreeMap.getElem?_insert]

@[simp] theorem get?_erase (r : Roster) (key name : String) :
    (r.erase key).get? name = if key = name then none else r.get? name := by
  rw [erase]
  split
  · simp [get?, Std.ExtTreeMap.getElem?_erase]
  · rename_i h
    split
    · simp_all [contains_eq_isSome]
    · rfl

theorem modify?_eq_none_iff {ρ : Type} {r : Roster} {key : String} {f : Node → Node × ρ} :
    r.modify? key f = none ↔ r.get? key = none := by
  rw [modify?]
  split <;> simp_all

/-- A modification stores what it makes of the record, and answers with what it decided. -/
theorem modify?_of_get? {ρ : Type} {r : Roster} {key : String} {node : Node} (f : Node → Node × ρ)
    (h : r.get? key = some node) : r.modify? key f = some (r.insert key (f node).1, (f node).2) := by
  simp [modify?, h, insert]

@[simp] theorem get?_update (r : Roster) (key name : String) (f : Node → Node) :
    (r.update key f).get? name = if key = name then (r.get? name).map f else r.get? name := by
  cases h : r.get? key with
  | none =>
    have hnone : (r.modify? key fun node => (f node, ())) = none := modify?_eq_none_iff.2 h
    simp only [update, hnone]
    split
    · simp_all
    · rfl
  | some node =>
    simp only [update, modify?_of_get? _ h, get?_insert]
    split
    · simp_all
    · rfl

@[simp] theorem get?_insertIfAbsent (r : Roster) (key name : String) (node : Node) :
    (r.insertIfAbsent key node).get? name =
      if key = name then some ((r.get? name).getD node) else r.get? name := by
  rw [insertIfAbsent, insertIfAbsent?, contains_eq_isSome]
  cases h : r.get? key with
  | none =>
    simp only [Option.isSome_none, Bool.false_eq_true, if_false, Option.getD_some, get?_insert]
    split <;> simp_all
  | some old =>
    simp only [Option.isSome_some, if_true, Option.getD_none]
    split <;> simp_all

/-! ### Eviction -/

/-- What a scan found: the entries to keep, the names to drop, and the revision it saw. -/
structure Scan where
  kept : Table Node
  dropped : List String
  revision : UInt64
  deriving DecidableEq

/-- Looks for the entries that satisfy a predicate. -/
def scan (r : Roster) (keep : Node → Bool) : Scan :=
  ⟨r.entries.keeping keep, r.entries.namesFailing keep, r.revision⟩

/-- Drops what the scan found.  If the roster has changed since, the predicate is applied again. -/
def commit (r : Roster) (keep : Node → Bool) (s : Scan) : Roster × List String :=
  if s.dropped.isEmpty then (r, [])
  else if r.revision = s.revision then (⟨s.kept, r.revision + 1⟩, s.dropped)
  else (⟨r.entries.keeping keep, r.revision + 1⟩, r.entries.namesFailing keep)

/-- Drops the entries that do not satisfy a predicate, and gives their names. -/
def filter (r : Roster) (keep : Node → Bool) : Roster × List String := r.commit keep (r.scan keep)

theorem mem_dropped_scan {r : Roster} {keep : Node → Bool} {name : String} :
    name ∈ (r.scan keep).dropped ↔ ∃ node, r.get? name = some node ∧ keep node = false :=
  Table.mem_namesFailing

/-- A scan that found nothing to drop would keep every record. -/
theorem filter_get?_of_dropped_eq_nil {r : Roster} {keep : Node → Bool}
    (h : (r.scan keep).dropped = []) (name : String) : (r.get? name).filter keep = r.get? name := by
  cases hn : r.get? name with
  | none => rfl
  | some node =>
    cases hk : keep node with
    | true => simp [hk]
    | false =>
      have hmem : name ∈ (r.scan keep).dropped := mem_dropped_scan.2 ⟨node, hn, hk⟩
      simp [h] at hmem

@[simp] theorem get?_filter (r : Roster) (keep : Node → Bool) (name : String) :
    (r.filter keep).1.get? name = (r.get? name).filter keep := by
  rw [filter, commit]
  split
  · rename_i h
    exact (filter_get?_of_dropped_eq_nil (List.isEmpty_iff.1 h) name).symm
  · simp [scan, get?]

theorem mem_filter {r : Roster} {keep : Node → Bool} {name : String} :
    name ∈ (r.filter keep).2 ↔ ∃ node, r.get? name = some node ∧ keep node = false := by
  rw [← mem_dropped_scan, filter, commit]
  split
  · rename_i h
    simp [List.isEmpty_iff.1 h]
  · simp [scan]

/-! ### Static peers -/

/-- Stores the peers of checked entries, the last one of each name. -/
def placeStatic (r : Roster) (entries : List StaticNode) (this : Identity) (now : Instant) : Roster :=
  ⟨entries.foldl (fun t e => t.insert e.name (.fixed (e.identity this) now)) r.entries,
    r.revision + 1⟩

/-- Stores the peers of all entries, or none if one of them is refused. -/
def loadStatic (r : Roster) (entries : List StaticNode) (this : Identity) (now : Instant) :
    Except (StaticNode × StaticFault) Roster :=
  match StaticNode.firstFault? this entries with
  | some fault => .error fault
  | none => .ok (r.placeStatic entries this now)

end Roster

end Flotilla
