import Mathlib.Data.List.Induction
import Mathlib.Data.Set.Defs
import Flotilla.EndNode

/-!
# The stored list of static peers

A list of static peers that is written to a store is read back as it was, and what stands under other keys
stays.  A list may have several entries of one name; the last one counts.
-/

namespace Flotilla

namespace Store

/-! ### Writing and reading -/

/-- An entry is read back as it was written. -/
@[simp] lemma staticNode?_staticToml (e : StaticNode) : staticNode? (staticToml e) = some e := by
  obtain ⟨name, host, port⟩ := e
  have hport : (Int64.ofNat port.toNat).toInt = port.toNat :=
    Int64.toInt_ofNat_of_lt (Nat.lt_trans port.toNat_lt (by decide))
  have hclamp : (Int64.ofNat port.toNat).toNatClampNeg = port.toNat := by
    rw [Int64.toNatClampNeg, hport, Int.toNat_natCast]
  have hlt : (port.toNat : Int) < 65536 := Int.ofNat_lt.2 port.toNat_lt
  have hfields : fieldsOf? ["name", "host", "port"] (staticToml ⟨name, host, port⟩) =
      some [.text name, .text host, .int (Int64.ofNat port.toNat)] := by
    simp only [staticToml, fieldsOf?, Fields.ofList, List.foldl_cons, List.foldl_nil, List.mapM_cons,
      List.mapM_nil]
    rw [Fields.lookup_put_of_ne (by decide), Fields.lookup_put_of_ne (by decide),
      Fields.lookup_put_self, Fields.lookup_put_of_ne (by decide), Fields.lookup_put_self,
      Fields.lookup_put_self]
    rfl
  simp [staticNode?, hfields, fieldText?, hport, hclamp, hlt]

/-- Static peers are read back as they are written. -/
lemma mapM_staticNode? (entries : List StaticNode) :
    (entries.map staticToml).mapM staticNode? = some entries := by
  induction entries with
  | nil => rfl
  | cons e entries ih => simp [ih]

def withStatic (s : Store) (entries : List StaticNode) : Store :=
  { s with entries := Fields.put staticKey (.list (entries.map staticToml)) s.entries }

variable (s : Store) (entries : List StaticNode)

@[simp] lemma backing_withStatic : (s.withStatic entries).backing = s.backing := rfl

lemma segments_staticKey : Config.segments staticKey = [staticKey] := by decide +kernel

lemma get?_eq_bind {key first : String} {rest : List String}
    (h : Config.segments key = first :: rest) :
    s.get? key = (s.entries.lookup first).bind (Config.lookup rest) := by
  rw [get?, h, Config.lookup, Toml.entry?]

/-- A list of static peers can always be set. -/
lemma setStatic_staticKey : s.setStatic staticKey entries = .ok (s.withStatic entries) := by
  rw [setStatic, withValue, set, segments_staticKey]
  rfl

/-- The list is read as it was written. -/
@[simp] lemma staticList_withStatic : (s.withStatic entries).staticList = .ok entries := by
  have hget : (s.withStatic entries).get? staticKey = some (.list (entries.map staticToml)) := by
    rw [get?_eq_bind _ segments_staticKey, withStatic, Fields.lookup_put_self]
    rfl
  have hstatic : (s.withStatic entries).getStatic staticKey = .ok entries := by
    simp only [getStatic, getListOf, require, hget, bind, Except.bind, mapM_staticNode?]
  rw [staticList, hstatic]

/-- What stands under other keys stays. -/
lemma get?_withStatic {key : String} (h : (Config.segments key).head? ≠ some staticKey) :
    (s.withStatic entries).get? key = s.get? key := by
  cases hkey : Config.segments key with
  | nil =>
    rw [get?, get?, hkey]
    simp [Config.segments] at hkey
  | cons first rest =>
    rw [hkey] at h
    rw [get?_eq_bind _ hkey, get?_eq_bind _ hkey, withStatic,
      Fields.lookup_put_of_ne fun hfirst => h (congrArg some hfirst)]

/-! ### Saving -/

/-- The store once it is flushed, if it can be. -/
def flushed (s : Store) : Store :=
  match s.backing with
  | .file _ => { s with backing := .file (Toml.render s.entries) }
  | .memory | .lost => s

/-- A list of static peers is saved unless the file is out of reach; in the store it is set in any
case. -/
lemma saveStatic_eq : s.saveStatic entries =
    if s.backing = .lost then (s.withStatic entries, .error .io)
    else ((s.withStatic entries).flushed, .ok ()) := by
  rw [saveStatic, setStatic_staticKey]
  cases hbacking : s.backing <;> simp [flush, flushed, hbacking]

@[simp] lemma staticList_flushed : s.flushed.staticList = s.staticList := by
  unfold flushed
  split <;> rfl

end Store

/-! ### The last entry of each name -/

namespace StaticNode

def latest? (name : String) (entries : List StaticNode) : Option StaticNode :=
  (entries.filter (·.name == name)).getLast?

/-- The entries that count. -/
def effective (entries : List StaticNode) : Set StaticNode := {e | latest? e.name entries = some e}

variable {name : String} {entries : List StaticNode} {e : StaticNode} {this : Identity}

/-- The last entry of a name wins. -/
lemma latest?_append_singleton : latest? name (entries ++ [e]) =
    if e.name = name then some e else latest? name entries := by
  rw [latest?, List.filter_append]
  split_ifs with hname
  · simp [hname]
  · simp [hname, latest?]

lemma latest?_without (other : String) : latest? name (Store.without other entries) =
    if other = name then none else latest? name entries := by
  rw [latest?, Store.without, List.filter_filter]
  split_ifs with hname
  · rw [List.filter_eq_nil_iff.2 fun e _ => by simp [hname]]
    rfl
  · congr 1
    refine List.filter_congr fun e _ => ?_
    by_cases he : e.name = name
    · simp [he, Ne.symm hname]
    · simp [he]

lemma name_of_latest? (h : latest? name entries = some e) : e.name = name := by
  simpa using (List.mem_filter.1 (List.mem_of_getLast? h)).2

lemma firstFault?_eq_none_iff :
    firstFault? this entries = none ↔ ∀ e ∈ entries, e.fault? this = none := by
  induction entries with
  | nil => simp [firstFault?]
  | cons e entries ih =>
    rw [firstFault?]
    cases hfault : e.fault? this with
    | some fault => simp [hfault]
    | none => simp [hfault, ih]

end StaticNode

namespace Roster

variable (r : Roster) (entries : List StaticNode) (this : Identity) (now : Instant) (name : String)

/-- The entry that is placed last replaces what stood under its name. -/
lemma get?_placeStatic_append_singleton (e : StaticNode) :
    (r.placeStatic (entries ++ [e]) this now).get? name =
      if e.name = name then some (.fixed (e.identity this) now)
      else (r.placeStatic entries this now).get? name := by
  rw [← get?_insert, placeStatic, List.foldl_append]
  rfl

/-- The last entry of each name is placed. -/
lemma get?_placeStatic_eq : (r.placeStatic entries this now).get? name =
    ((StaticNode.latest? name entries).map fun e => .fixed (e.identity this) now).or (r.get? name) := by
  induction entries using List.reverseRecOn with
  | nil => rfl
  | append_singleton entries e ih =>
    rw [get?_placeStatic_append_singleton, StaticNode.latest?_append_singleton]
    split_ifs with hname
    · rfl
    · exact ih

end Roster

end Flotilla
