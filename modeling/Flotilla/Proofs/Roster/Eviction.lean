import Mathlib.Tactic.Common
import Flotilla.Roster

/-!
# Evictions among other writes

An eviction scans a roster under one lock and commits what it found under another one.  Any writes may
get the lock in between.  Unless there are `2 ^ 64` of them, the revision tells the commit whether there
were any that changed something, and the eviction comes out as if it had been one step at the commit.
-/

namespace Flotilla.Roster

/-! ### Writes -/

/-- A step of another task on a roster. -/
inductive Write : Type 1 where
  | insert (key : String) (node : Node)
  | erase (key : String)
  | insertIfAbsent (key : String) (node : Node)
  /-- A decision on a record that changes it; its answer goes to the other task. -/
  | modify {ρ : Type} (key : String) (f : Node → Node × ρ)
  | loadStatic (entries : List StaticNode) (this : Identity) (now : Instant)
  /-- Another eviction, both of its phases. -/
  | filter (keep : Node → Bool)
  /-- The second phase of another eviction, with whatever its scan saw whenever that was. -/
  | commit (keep : Node → Bool) (s : Scan)

def write (r : Roster) : Write → Roster
  | .insert key node => r.insert key node
  | .erase key => r.erase key
  | .insertIfAbsent key node => r.insertIfAbsent key node
  | .modify key f => ((r.modify? key f).map (·.1)).getD r
  | .loadStatic entries this now => (r.loadStatic entries this now).toOption.getD r
  | .filter keep => (r.filter keep).1
  | .commit keep s => (r.commit keep s).1

def writeAll (r : Roster) (ws : List Write) : Roster := ws.foldl write r

@[simp] lemma writeAll_nil (r : Roster) : r.writeAll [] = r := rfl

@[simp] lemma writeAll_cons (r : Roster) (w : Write) (ws : List Write) :
    r.writeAll (w :: ws) = (r.write w).writeAll ws := rfl

/-- An update is a modification without an answer. -/
lemma write_update (r : Roster) (key : String) (f : Node → Node) :
    r.write (.modify key fun node => (f node, ())) = r.update key f := by
  simp only [write, update]
  cases r.modify? key fun node => (f node, ()) <;> rfl

/-! ### Revisions -/

/-- A commit is refused, or it counts as a change. -/
lemma commit_eq_or_revision (r : Roster) (keep : Node → Bool) (s : Scan) :
    (r.commit keep s).1 = r ∨ (r.commit keep s).1.revision = r.revision + 1 := by
  rw [commit]
  split_ifs
  · exact .inl rfl
  · exact .inr rfl
  · exact .inr rfl

/-- A write that leaves the revision as it is does not change anything. -/
lemma write_eq_or_revision (r : Roster) (w : Write) :
    r.write w = r ∨ (r.write w).revision = r.revision + 1 := by
  cases w with
  | insert key node => exact .inr rfl
  | erase key =>
    simp only [write, erase]
    split_ifs
    · exact .inr rfl
    · exact .inl rfl
  | insertIfAbsent key node =>
    simp only [write, insertIfAbsent, insertIfAbsent?]
    split_ifs
    · exact .inl rfl
    · exact .inr rfl
  | modify key f =>
    simp only [write, modify?]
    cases r.get? key with
    | none => exact .inl rfl
    | some node => exact .inr rfl
  | loadStatic entries this now =>
    simp only [write, loadStatic]
    cases StaticNode.firstFault? this entries with
    | some fault => exact .inl rfl
    | none => exact .inr rfl
  | filter keep => exact commit_eq_or_revision r keep _
  | commit keep s => exact commit_eq_or_revision r keep s

/-- Writes move the revision on by the number of those that changed something. -/
lemma exists_revision_writeAll (r : Roster) (ws : List Write) :
    ∃ k ≤ ws.length, (r.writeAll ws).revision = r.revision + UInt64.ofNat k ∧
      (k = 0 → r.writeAll ws = r) := by
  induction ws generalizing r with
  | nil => exact ⟨0, Nat.le_refl _, by simp, fun _ => rfl⟩
  | cons w ws ih =>
    obtain ⟨k, hk, hrev, heq⟩ := ih (r.write w)
    rcases write_eq_or_revision r w with hw | hw
    · rw [hw] at hrev heq
      exact ⟨k, Nat.le_succ_of_le hk, by rw [writeAll_cons, hw, hrev], by rwa [writeAll_cons, hw]⟩
    · refine ⟨k + 1, Nat.succ_le_succ hk, ?_, fun h => absurd h k.succ_ne_zero⟩
      rw [writeAll_cons, hrev, hw, UInt64.ofNat_add, UInt64.add_assoc, UInt64.add_comm 1]
      rfl

/-- As long as the revision cannot have come round, an unchanged one means an unchanged roster. -/
lemma writeAll_eq_of_revision_eq {r : Roster} {ws : List Write} (hws : ws.length < UInt64.size)
    (h : (r.writeAll ws).revision = r.revision) : r.writeAll ws = r := by
  obtain ⟨k, hk, hrev, heq⟩ := exists_revision_writeAll r ws
  apply heq
  have hzero : UInt64.ofNat k = 0 := by
    rw [h] at hrev
    exact UInt64.left_eq_add.1 hrev
  have hmod : k % UInt64.size = 0 := (UInt64.ofNat_eq_iff_mod_eq_toNat k 0).1 hzero
  rwa [Nat.mod_eq_of_lt (Nat.lt_of_le_of_lt hk hws)] at hmod

/-! ### Evictions -/

/-- A scan that found something is committed as if it had been made at the commit. -/
lemma commit_scan_of_dropped_ne_nil {r : Roster} {keep : Node → Bool} {ws : List Write}
    (hws : ws.length < UInt64.size) (h : (r.scan keep).dropped ≠ []) :
    ((r.writeAll ws).commit keep (r.scan keep)).1.entries = (r.writeAll ws).entries.keeping keep ∧
      ((r.writeAll ws).commit keep (r.scan keep)).2 = (r.writeAll ws).entries.namesFailing keep := by
  rw [commit, if_neg (by simpa using h)]
  split_ifs with hrev
  · rw [writeAll_eq_of_revision_eq hws hrev]
    exact ⟨rfl, rfl⟩
  · exact ⟨rfl, rfl⟩

/-- An eviction without a pause between its phases drops what fails the predicate. -/
lemma filter_eq (r : Roster) (keep : Node → Bool) :
    (r.filter keep).1.entries = r.entries.keeping keep ∧
      (r.filter keep).2 = r.entries.namesFailing keep := by
  by_cases h : (r.scan keep).dropped = []
  · have hkeep : r.entries.keeping keep = r.entries :=
      Std.ExtTreeMap.ext_getElem? fun name => by
        rw [Table.getElem?_keeping]
        exact filter_get?_of_dropped_eq_nil h name
    have hnil : r.entries.namesFailing keep = [] := h
    simp [filter, commit, h, hkeep, hnil]
  · have hws : ([] : List Write).length < UInt64.size := by decide
    exact commit_scan_of_dropped_ne_nil hws h

/-- An eviction is one step, whatever is written between its scan and its commit: if the scan found a
record to drop, exactly the records that fail the predicate at the commit go, each of their names is
given once, and all is as if the scan had been made at the commit; if it found none, nothing happens. -/
theorem commit_scan_eq_filter (r : Roster) (keep : Node → Bool) (ws : List Write)
    (hws : ws.length < UInt64.size) :
    let late := r.writeAll ws
    let result := late.commit keep (r.scan keep)
    ((∃ key node, r.get? key = some node ∧ keep node = false) →
      (∀ key, result.1.get? key = (late.get? key).filter keep) ∧
      result.2.Nodup ∧
      (∀ key, key ∈ result.2 ↔ ∃ node, late.get? key = some node ∧ keep node = false) ∧
      result.1.entries = (late.filter keep).1.entries ∧ result.2 = (late.filter keep).2) ∧
    ((∀ key node, r.get? key = some node → keep node = true) → result = (late, [])) := by
  intro late result
  constructor
  · rintro ⟨key, node, hget, hkeep⟩
    have hfound : (r.scan keep).dropped ≠ [] :=
      List.ne_nil_of_mem (mem_dropped_scan.2 ⟨node, hget, hkeep⟩)
    obtain ⟨hentries, hdropped⟩ := commit_scan_of_dropped_ne_nil hws hfound
    obtain ⟨hentries', hdropped'⟩ := filter_eq late keep
    refine ⟨fun name => ?_, ?_, fun name => ?_, ?_, ?_⟩
    · rw [get?, hentries, Table.getElem?_keeping]
      rfl
    · rw [hdropped]
      exact Table.nodup_namesFailing _ _
    · rw [hdropped]
      exact Table.mem_namesFailing
    · rw [hentries, hentries']
    · rw [hdropped, hdropped']
  · intro hall
    have hnone : (r.scan keep).dropped = [] := by
      refine List.eq_nil_iff_forall_not_mem.2 fun name hmem => ?_
      obtain ⟨node, hget, hkeep⟩ := mem_dropped_scan.1 hmem
      simp [hall name node hget] at hkeep
    simp [result, commit, hnone]

/-- A token that arrives for `x` while the eviction of `y` is under way stays, and so does a new `z`. -/
theorem commit_scan_eq_filter_two_peers :
    let x : Node := .fixed ⟨"x", "10.0.0.2", 5000, "prod"⟩ 0
    let y : Node := .new ⟨"y", "10.0.0.3", 5000, "prod"⟩ 0
    let z : Node := .fixed ⟨"z", "10.0.0.4", 5000, "prod"⟩ 0
    let r := (empty.insert "x" x).insert "y" y
    let ws : List Write :=
      [.modify "x" fun node => ({ node with outToken := "fresh" }, ()), .insertIfAbsent "z" z]
    let result := (r.writeAll ws).commit (·.isLocal) (r.scan (·.isLocal))
    ws.length < UInt64.size ∧ result.1.get? "x" = some { x with outToken := "fresh" } ∧
      result.1.get? "y" = none ∧ result.1.get? "z" = some z ∧ "y" ∈ result.2 := by
  intro x y z r ws result
  have hws : ws.length < UInt64.size := by decide
  have hlate : r.writeAll ws =
      (r.update "x" fun node => { node with outToken := "fresh" }).insertIfAbsent "z" z := by
    rw [← write_update]
    rfl
  obtain ⟨hget, -, hmem, -⟩ :=
    (commit_scan_eq_filter r (·.isLocal) ws hws).1 ⟨"y", y, by simp [r], rfl⟩
  refine ⟨hws, (hget "x").trans ?_, (hget "y").trans ?_, (hget "z").trans ?_,
    (hmem "y").2 ⟨y, ?_, rfl⟩⟩
  all_goals rw [hlate]
  · simp [r, x, Node.fixed]
  · simp [r, y, Node.new]
  · simp [r, z, Node.fixed]
  · simp [r]

end Flotilla.Roster
