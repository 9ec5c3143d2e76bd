import Flotilla.Proofs.Cluster.Records
import Flotilla.Proofs.Config.StaticList

/-!
# Loading static peers

A list of static peers is loaded as a whole or not at all.  If there is a reason against an entry, the first
such entry is reported and the roster stays as it is.  Otherwise every name on the list holds a fresh record
made from the last entry of that name, and the other names keep what they hold.
-/

namespace Flotilla

/-! ### Reasons against an entry -/

namespace StaticFault

/-- Whether a reason holds against an entry. -/
def Concerns (e : StaticNode) (this : Identity) : StaticFault → Prop
  | .emptyName => e.name = ""
  | .emptyHost => e.host = ""
  | .reservedPort => e.port.toNat ≤ 1000
  | .ownName => e.name = this.name
  | .ownAddress => e.host = this.host ∧ e.port = this.port

instance (e : StaticNode) (this : Identity) : DecidablePred (Concerns e this) := fun
  | .emptyName => inferInstanceAs (Decidable (e.name = ""))
  | .emptyHost => inferInstanceAs (Decidable (e.host = ""))
  | .reservedPort => inferInstanceAs (Decidable (e.port.toNat ≤ 1000))
  | .ownName => inferInstanceAs (Decidable (e.name = this.name))
  | .ownAddress => inferInstanceAs (Decidable (e.host = this.host ∧ e.port = this.port))

/-- The reasons in the order in which they are looked for. -/
def inOrder : List StaticFault := [.emptyName, .emptyHost, .reservedPort, .ownName, .ownAddress]

lemma mem_inOrder (fault : StaticFault) : fault ∈ inOrder := by cases fault <;> decide

end StaticFault

namespace StaticNode

variable {e : StaticNode} {this : Identity} {entries : List StaticNode} {name : String}

def IsValid (e : StaticNode) (this : Identity) : Prop := ∀ fault : StaticFault, ¬ fault.Concerns e this

/-- The reasons are looked for in their order. -/
lemma fault?_eq_find? :
    e.fault? this = StaticFault.inOrder.find? fun fault => fault.Concerns e this := by
  have hport : e.port ≤ reservedPorts ↔ e.port.toNat ≤ 1000 := UInt16.le_iff_toNat_le
  simp only [fault?, hport, StaticFault.inOrder, List.find?_cons, List.find?_nil, StaticFault.Concerns]
  grind

lemma fault?_eq_none_iff : e.fault? this = none ↔ e.IsValid this := by
  rw [fault?_eq_find?, List.find?_eq_none]
  simp [IsValid, StaticFault.mem_inOrder]

/-- What is reported is the first entry that there is a reason against. -/
lemma exists_of_firstFault?_eq_some {fault : StaticFault}
    (h : firstFault? this entries = some (e, fault)) :
    ∃ before after, entries = before ++ e :: after ∧ (∀ e ∈ before, e.IsValid this) ∧
      e.fault? this = some fault := by
  induction entries with
  | nil => cases h
  | cons first entries ih =>
    rw [firstFault?] at h
    cases hfirst : first.fault? this with
    | some fault' =>
      simp only [hfirst, Option.some.injEq, Prod.mk.injEq] at h
      obtain ⟨rfl, rfl⟩ := h
      exact ⟨[], entries, rfl, by simp, hfirst⟩
    | none =>
      simp only [hfirst] at h
      obtain ⟨before, after, rfl, hbefore, hfault⟩ := ih h
      exact ⟨first :: before, after, rfl,
        List.forall_mem_cons.2 ⟨fault?_eq_none_iff.1 hfirst, hbefore⟩, hfault⟩

/-! ### The last entry of a name -/

lemma latest?_eq_none_iff : latest? name entries = none ↔ ∀ e ∈ entries, e.name ≠ name := by
  simp [latest?]

/-- The latest entry is the one after which the name does not occur. -/
lemma latest?_of_eq_append {before after : List StaticNode} (h : entries = before ++ e :: after)
    (hlast : ∀ later ∈ after, later.name ≠ e.name) : latest? e.name entries = some e := by
  have hafter : after.filter (·.name == e.name) = [] :=
    List.filter_eq_nil_iff.2 fun later hlater => by simp [hlast later hlater]
  rw [latest?, h, List.filter_append, List.filter_cons_of_pos (by simp), hafter, List.getLast?_concat]

end StaticNode

/-! ### Lists in a store -/

namespace Store

/-- Whether a value is a list of static peers, and of which. -/
def IsListing (entries : List StaticNode) (v : Toml) : Prop :=
  ∃ items, v = .list items ∧ items.map staticNode? = entries.map some

/-- A list that is missing is not the empty list. -/
lemma getStatic_of_get?_eq_none {s : Store} {key : String} (h : s.get? key = none) :
    s.getStatic key = .error (.missingKey key) := by
  simp only [getStatic, getListOf, require, h, bind, Except.bind]

/-- What stands under a key is read as the list that it is, and refused if it is none. -/
lemma getStatic_of_get?_eq_some {s : Store} {key : String} {v : Toml} (h : s.get? key = some v) :
    (∃ entries, IsListing entries v ∧ s.getStatic key = .ok entries) ∨
      (∀ entries, ¬ IsListing entries v) ∧ s.getStatic key = .error (.wrongShape key) := by
  simp only [getStatic, getListOf, require, h, bind, Except.bind]
  cases v with
  | list items =>
    dsimp only
    cases hitems : items.mapM staticNode? with
    | some entries => exact .inl ⟨entries, ⟨items, rfl, mapM_eq_some_iff.1 hitems⟩, rfl⟩
    | none =>
      refine .inr ⟨?_, rfl⟩
      rintro entries ⟨_, ⟨⟩, hlisting⟩
      rw [mapM_eq_some_iff.2 hlisting] at hitems
      cases hitems
  | _ =>
    refine .inr ⟨?_, rfl⟩
    rintro entries ⟨_, ⟨⟩, -⟩

end Store

/-! ### All or nothing -/

namespace Roster

/-- The roster `r'` is `r` with a fresh record for the last entry of each name. -/
structure HasTaken (r : Roster) (entries : List StaticNode) (this : Identity) (now : Instant)
    (r' : Roster) : Prop where
  listed : ∀ before e after, entries = before ++ e :: after → (∀ later ∈ after, later.name ≠ e.name) →
    r'.get? e.name = some
      { identity := ⟨e.name, e.host, e.port, this.cluster⟩
        inToken := ""
        outToken := ""
        heardAt := none
        reportedAt := none
        createdAt := now
        isLocal := true }
  others : ∀ key, (∀ e ∈ entries, e.name ≠ key) → r'.get? key = r.get? key

/-- How loading a list of entries ends: with the roster that it leaves behind and with its result. -/
inductive LoadsAs (r : Roster) (this : Identity) (now : Instant) :
    List StaticNode → Roster × Except ConfigError ℕ → Prop
  | whole {entries : List StaticNode} {r' : Roster} (hvalid : ∀ e ∈ entries, e.IsValid this)
      (htaken : r.HasTaken entries this now r') : LoadsAs r this now entries (r', .ok entries.length)
  | nothing {before after : List StaticNode} {e : StaticNode} {fault : StaticFault}
      (hvalid : ∀ e ∈ before, e.IsValid this)
      (hfault : StaticFault.inOrder.find? (fun fault => fault.Concerns e this) = some fault) :
      LoadsAs r this now (before ++ e :: after) (r, .error (.staticNode e.name fault))

variable (r : Roster) (this : Identity) (now : Instant)

lemma hasTaken_placeStatic (entries : List StaticNode) :
    r.HasTaken entries this now (r.placeStatic entries this now) where
  listed before e after hentries hlast := by
    rw [get?_placeStatic_eq, StaticNode.latest?_of_eq_append hentries hlast]
    rfl
  others key hkey := by
    rw [get?_placeStatic_eq, StaticNode.latest?_eq_none_iff.2 hkey]
    rfl

/-- A list is taken as a whole or refused as a whole. -/
lemma loadsAs_load (entries : List StaticNode) :
    r.LoadsAs this now entries (r.load entries this now) := by
  rw [load, loadStatic]
  cases hfault : StaticNode.firstFault? this entries with
  | none =>
    have hvalid : ∀ e ∈ entries, e.fault? this = none := StaticNode.firstFault?_eq_none_iff.1 hfault
    exact .whole (fun e he => StaticNode.fault?_eq_none_iff.1 (hvalid e he))
      (r.hasTaken_placeStatic this now entries)
  | some fault =>
    obtain ⟨before, after, rfl, hbefore, hfirst⟩ := StaticNode.exists_of_firstFault?_eq_some hfault
    exact .nothing hbefore (StaticNode.fault?_eq_find?.symm.trans hfirst)

/-- Static peers are loaded as a whole or not at all, from a list and from a store.  A store without a list
loads nothing, and one that has something else in the place of the list is refused. -/
theorem load_whole_or_nothing :
    (∀ entries, r.LoadsAs this now entries (r.load entries this now)) ∧
      ∀ store : Store,
        store.get? "static_nodes" = none ∧ r.loadFrom store this now = (r, .ok 0) ∨
        ∃ v, store.get? "static_nodes" = some v ∧
          ((∃ entries, Store.IsListing entries v ∧
              r.LoadsAs this now entries (r.loadFrom store this now)) ∨
            (∀ entries, ¬ Store.IsListing entries v) ∧
              r.loadFrom store this now = (r, .error (.wrongShape "static_nodes"))) := by
  refine ⟨r.loadsAs_load this now, fun store => ?_⟩
  rw [loadFrom]
  cases hget : store.get? "static_nodes" with
  | none =>
    refine .inl ⟨rfl, ?_⟩
    rw [Store.staticKey, Store.getStatic_of_get?_eq_none hget]
  | some v =>
    refine .inr ⟨v, rfl, ?_⟩
    rw [Store.staticKey]
    obtain ⟨entries, hlisting, hstatic⟩ | ⟨hlisting, hstatic⟩ :=
      Store.getStatic_of_get?_eq_some hget
    · rw [hstatic]
      exact .inl ⟨entries, hlisting, r.loadsAs_load this now entries⟩
    · rw [hstatic]
      exact .inr ⟨hlisting, rfl⟩

/-- The first entry with a fault counts, and of its faults the first one. -/
example : empty.load [⟨"ann", "host", 2000⟩, ⟨"bob", "", 80⟩, ⟨"", "", 0⟩] ⟨"me", "here", 1500, "home"⟩ 0 =
    (empty, .error (.staticNode "bob" .emptyHost)) := rfl

end Roster

end Flotilla
