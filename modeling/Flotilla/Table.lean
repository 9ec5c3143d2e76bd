import Std.Data.ExtTreeMap

/-!
# Tables

A finite map from names to values.  Two tables are equal if they hold the same values under the same
names, and a table lists its entries in the order of their names.
-/

namespace Flotilla

/-- A finite map from names to values. -/
abbrev Table (α : Type) := Std.ExtTreeMap String α compare

namespace Table

variable {α : Type}

/-- The entries that satisfy `keep`. -/
def keeping (t : Table α) (keep : α → Bool) : Table α := t.filter fun _ a => keep a

/-- The names of the entries that do not satisfy `keep`, in order. -/
def namesFailing (t : Table α) (keep : α → Bool) : List String :=
  (t.toList.filter fun e => !keep e.2).map (·.1)

/-- A table lists its values in the order of their names. -/
theorem values_eq_map_toList (t : Table α) : t.values = t.toList.map (·.2) := by
  obtain ⟨inner⟩ := t
  induction inner using Std.ExtDTreeMap.inductionOn with
  | mk m =>
    rw [List.map_eq_foldr]
    exact Std.DTreeMap.Internal.Impl.Const.foldr_eq_foldr_toList

theorem mem_values {t : Table α} {a : α} : a ∈ t.values ↔ ∃ name : String, t[name]? = some a := by
  simp [values_eq_map_toList, Std.ExtTreeMap.mem_toList_iff_getElem?_eq_some]

theorem length_values (t : Table α) : t.values.length = t.size := by
  rw [values_eq_map_toList, List.length_map, Std.ExtTreeMap.length_toList]

/-- What the values are mapped to, if it is determined by their names. -/
theorem map_values_eq_map_keys {β : Type} {t : Table α} {f : α → β} {g : String → β}
    (h : ∀ (name : String) (a : α), t[name]? = some a → f a = g name) :
    t.values.map f = t.keys.map g := by
  rw [values_eq_map_toList, ← Std.ExtTreeMap.map_fst_toList_eq_keys, List.map_map, List.map_map]
  apply List.map_congr_left
  intro e he
  exact h e.1 e.2 (Std.ExtTreeMap.mem_toList_iff_getElem?_eq_some.1 he)

/-- There is nothing to erase under a name that is not in a table. -/
theorem erase_eq_self {t : Table α} {name : String} (h : name ∉ t) : t.erase name = t := by
  apply Std.ExtTreeMap.ext_getElem?
  intro other
  rw [Std.ExtTreeMap.getElem?_erase]
  split
  · next hother => rw [← Std.LawfulEqCmp.eq_of_compare hother, Std.ExtTreeMap.getElem?_eq_none h]
  · rfl

@[simp] theorem getElem?_keeping (t : Table α) (keep : α → Bool) (name : String) :
    (t.keeping keep)[name]? = t[name]?.filter keep := by
  simp [keeping]

theorem mem_namesFailing {t : Table α} {keep : α → Bool} {name : String} :
    name ∈ t.namesFailing keep ↔ ∃ a, t[name]? = some a ∧ keep a = false := by
  simp [namesFailing, Std.ExtTreeMap.mem_toList_iff_getElem?_eq_some]

theorem nodup_namesFailing (t : Table α) (keep : α → Bool) : (t.namesFailing keep).Nodup := by
  have hkeys : (t.toList.map (·.1)).Nodup := by
    rw [Std.ExtTreeMap.map_fst_toList_eq_keys]
    exact Std.ExtTreeMap.nodup_keys
  exact hkeys.sublist (List.filter_sublist.map _)

end Table

end Flotilla
