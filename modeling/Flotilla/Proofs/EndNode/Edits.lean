import Flotilla.Proofs.Config.StaticList
import Flotilla.Proofs.EndNode.Events

/-!
# Edits of the static peers

An edit is checked and recorded in the store; then it is carried out on the roster, step by step.  An edit
that fails has not come to the roster.  It leaves the store alone, too, unless it is the file that fails:
by then the new list has been set.
-/

namespace Flotilla

/-- What an administrator does to the static peers of a node. -/
inductive StaticEdit where
  | add (entry : StaticNode)
  | delete (name : String)
  deriving DecidableEq

/-! ### The store -/

namespace StaticEdit

def name : StaticEdit → String
  | .add entry => entry.name
  | .delete name => name

def entries : StaticEdit → List StaticNode
  | .add entry => [entry]
  | .delete _ => []

def apply (edit : StaticEdit) (entries : List StaticNode) : List StaticNode :=
  Store.without edit.name entries ++ edit.entries

/-- The edited list is written; a list without the deleted name is not. -/
def writes : StaticEdit → List StaticNode → Bool
  | .add _, _ => true
  | .delete name, entries => (Store.without name entries).length != entries.length

/-- A list that is not written is one that the edit would leave as it is. -/
lemma apply_of_writes_eq_false {edit : StaticEdit} {entries : List StaticNode}
    (h : edit.writes entries = false) : edit.apply entries = entries := by
  cases edit with
  | add entry => cases h
  | delete name =>
    have hlength : (Store.without name entries).length = entries.length := by simpa [writes] using h
    exact (List.append_nil _).trans (List.filter_sublist.eq_of_length hlength)

/-- Why the edit is refused, if it is. -/
def fault? (this : Identity) : StaticEdit → Option ConfigError
  | .add entry => (entry.fault? this).map (.staticNode entry.name)
  | .delete _ => none

end StaticEdit

namespace Store

/-- Writes an edit to the list of static peers. -/
def record (s : Store) : StaticEdit → Store × Except ConfigError Unit
  | .add entry => s.addStatic entry
  | .delete name => s.removeStatic name

section Record

variable {s : Store} {edit : StaticEdit}

/-- A list that cannot be read is not written. -/
lemma record_of_error {fault : ConfigError} (hlist : s.staticList = .error fault) :
    s.record edit = (s, .error fault) := by
  cases edit <;> simp only [record, addStatic, removeStatic, hlist]

lemma record_of_ok {entries : List StaticNode} (hlist : s.staticList = .ok entries) : s.record edit =
    if edit.writes entries then s.saveStatic (edit.apply entries) else (s, .ok ()) := by
  cases edit with
  | add entry =>
    simp only [record, addStatic, hlist]
    rfl
  | delete name =>
    have happly : (StaticEdit.delete name).apply entries = without name entries := List.append_nil _
    simp only [record, removeStatic, hlist, StaticEdit.writes, happly, bne_iff_ne, ite_not]

end Record

/-- What writing an edit makes of a store, and what comes out of it. -/
inductive Recorded (s : Store) (edit : StaticEdit) : Store × Except ConfigError Unit → Prop where
  | unread {fault : ConfigError} (hlist : s.staticList = .error fault) : Recorded s edit (s, .error fault)
  | unlisted {entries : List StaticNode} (hlist : s.staticList = .ok entries)
      (hsame : edit.apply entries = entries) : Recorded s edit (s, .ok ())
  | saved {entries : List StaticNode} (hlist : s.staticList = .ok entries) (hfile : s.backing ≠ .lost) :
      Recorded s edit ((s.withStatic (edit.apply entries)).flushed, .ok ())
  | unsaved {entries : List StaticNode} (hlist : s.staticList = .ok entries) (hfile : s.backing = .lost) :
      Recorded s edit (s.withStatic (edit.apply entries), .error .io)

/-- A list that is saved is recorded, or the write has failed. -/
lemma Recorded.of_save {s : Store} {edit : StaticEdit} {entries : List StaticNode}
    (hlist : s.staticList = .ok entries) : s.Recorded edit (s.saveStatic (edit.apply entries)) := by
  rw [saveStatic_eq]
  split_ifs with hfile
  · exact .unsaved hlist hfile
  · exact .saved hlist hfile

/-- An edit is written in one of the ways that `Recorded` lists. -/
lemma recorded_record (s : Store) (edit : StaticEdit) : s.Recorded edit (s.record edit) := by
  cases hlist : s.staticList with
  | error fault =>
    rw [record_of_error hlist]
    exact .unread hlist
  | ok entries =>
    rw [record_of_ok hlist]
    split_ifs with hwrites
    · exact .of_save hlist
    · exact .unlisted hlist (StaticEdit.apply_of_writes_eq_false (Bool.eq_false_iff.2 hwrites))

end Store

/-! ### The roster -/

namespace Roster

variable {r : Roster} {identity : Identity} {node : Node}

lemma promote?_of_none (h : r.get? identity.name = none) :
    r.promote? identity = (r, false) := by
  rw [promote?, modify?_eq_none_iff.2 h]

lemma promote?_of_eq (h : r.get? identity.name = some node)
    (hid : node.identity = identity) :
    r.promote? identity = (r.insert identity.name { node with isLocal := true }, true) := by
  simp only [promote?, modify?_of_get? _ h, promote, if_pos hid]

/-- A record of another identity is left as it is. -/
lemma promote?_of_ne (h : r.get? identity.name = some node)
    (hid : node.identity ≠ identity) :
    r.promote? identity = (r.insert identity.name node, false) := by
  simp only [promote?, modify?_of_get? _ h, promote, if_neg hid]

end Roster

/-- What is left to do on the roster of an edit that has been recorded. -/
inductive Stage where
  | promoting (identity : Identity)
  | placing (identity : Identity)
  | erasing (name : String)
  | done
  deriving DecidableEq

namespace Stage

def step (now : Instant) (r : Roster) : Stage → Roster × Stage
  | .promoting identity =>
    match r.promote? identity with
    | (r, true) => (r, .done)
    | (r, false) => (r, .placing identity)
  | .placing identity => (r.insert identity.name (.fixed identity now), .done)
  | .erasing name => (r.erase name, .done)
  | .done => (r, .done)

def finish (now : Instant) (r : Roster) (stage : Stage) : Roster :=
  let (r, stage) := stage.step now r
  (stage.step now r).1

end Stage

/-- No edit takes more than two steps on the roster. -/
lemma Stage.step_step (now : Instant) (r r' : Roster) (stage : Stage) :
    ((stage.step now r).2.step now r').2 = .done := by
  cases stage with
  | promoting identity =>
    simp only [step]
    cases r.promote? identity with
    | mk r'' same => cases same <;> rfl
  | placing | erasing | done => rfl

/-- The steps of an edit on the roster. -/
def StaticEdit.stage (this : Identity) : StaticEdit → Stage
  | .add entry => .promoting (entry.identity this)
  | .delete name => .erasing name

namespace Stage

def IsAbout (name : String) : Stage → Prop
  | .promoting identity | .placing identity => identity.name = name
  | .erasing erased => erased = name
  | .done => True

/-- What a step makes of the record under the name that it is about, and what is left then. -/
inductive Advance (now : Instant) : Stage → Option Node → Option Node → Stage → Prop where
  | promoted {identity : Identity} {node : Node} (hid : node.identity = identity) :
      Advance now (.promoting identity) (some node) (some { node with isLocal := true }) .done
  | differs {identity : Identity} {known : Option Node}
      (hid : ∀ node, known = some node → node.identity ≠ identity) :
      Advance now (.promoting identity) known known (.placing identity)
  | placed {identity : Identity} {known : Option Node} :
      Advance now (.placing identity) known (some (.fixed identity now)) .done
  | erased {name : String} {known : Option Node} : Advance now (.erasing name) known none .done
  | idle {known : Option Node} : Advance now .done known known .done

variable {name : String} {stage : Stage} (now : Instant) (r : Roster)

/-- A step is one of those that `Advance` lists. -/
lemma advance_step (h : stage.IsAbout name) :
    Advance now stage (r.get? name) ((stage.step now r).1.get? name) (stage.step now r).2 := by
  cases stage with
  | promoting identity =>
    obtain rfl : identity.name = name := h
    cases hget : r.get? identity.name with
    | none =>
      simp only [step, Roster.promote?_of_none hget, hget]
      exact .differs nofun
    | some node =>
      by_cases hid : node.identity = identity
      · simp only [step, Roster.promote?_of_eq hget hid, Roster.get?_insert, if_true]
        exact .promoted hid
      · simp only [step, Roster.promote?_of_ne hget hid, Roster.get?_insert, if_true]
        exact .differs fun other hother => Option.some.inj hother ▸ hid
  | placing identity =>
    obtain rfl : identity.name = name := h
    simp only [step, Roster.get?_insert, if_true]
    exact .placed
  | erasing erased =>
    obtain rfl : erased = name := h
    simp only [step, Roster.get?_erase, if_true]
    exact .erased
  | done => exact .idle

/-- A step leaves all other records alone. -/
lemma get?_step_of_ne (h : stage.IsAbout name) {key : String} (hne : name ≠ key) :
    (stage.step now r).1.get? key = r.get? key := by
  cases stage with
  | promoting identity =>
    obtain rfl : identity.name = name := h
    cases hget : r.get? identity.name with
    | none => simp only [step, Roster.promote?_of_none hget]
    | some node =>
      by_cases hid : node.identity = identity
      · simp only [step, Roster.promote?_of_eq hget hid, Roster.get?_insert, if_neg hne]
      · simp only [step, Roster.promote?_of_ne hget hid, Roster.get?_insert, if_neg hne]
  | placing identity =>
    obtain rfl : identity.name = name := h
    simp only [step, Roster.get?_insert, if_neg hne]
  | erasing erased =>
    obtain rfl : erased = name := h
    simp only [step, Roster.get?_erase, if_neg hne]
  | done => rfl

end Stage

/-- A peer that is promoted ends up as one that is placed at once. -/
lemma Stage.finish_promoting (now : Instant) (r : Roster) (identity : Identity) :
    (Stage.promoting identity).finish now r = r.placeLocal identity now := by
  simp only [finish, step, Roster.placeLocal]
  cases r.promote? identity with
  | mk r' same => cases same <;> rfl

/-! ### The node -/

variable {σ : Type}

namespace EndNode

def edit (n : EndNode σ) (now : Instant) : StaticEdit → EndNode σ × Except ConfigError Unit
  | .add entry => n.addLocal entry now
  | .delete name => ((n.deleteNode name).1, (n.deleteNode name).2.map fun _ => ())

def record (n : EndNode σ) (edit : StaticEdit) : EndNode σ × Except ConfigError Unit :=
  match edit.fault? n.this with
  | some fault => (n, .error fault)
  | none => n.editStore (·.record edit)

/-- What recording an edit makes of a node, and what comes out of it. -/
inductive Recorded (n : EndNode σ) (edit : StaticEdit) : EndNode σ × Except ConfigError Unit → Prop where
  | refused {fault : ConfigError} (hfault : edit.fault? n.this = some fault) :
      Recorded n edit (n, .error fault)
  | storeless (hfault : edit.fault? n.this = none) (hstore : n.store = none) :
      Recorded n edit (n, .ok ())
  | written {s s' : Store} {result : Except ConfigError Unit} (hfault : edit.fault? n.this = none)
      (hstore : n.store = some s) (hrecorded : s.Recorded edit (s', result)) :
      Recorded n edit ({ n with store := some s' }, result)

variable (n : EndNode σ) (now : Instant)

/-- An edit is recorded in one of the ways that `Recorded` lists. -/
lemma recorded_record (edit : StaticEdit) : n.Recorded edit (n.record edit) := by
  unfold record
  cases hfault : edit.fault? n.this with
  | some fault => exact .refused hfault
  | none =>
    unfold editStore
    cases hstore : n.store with
    | none => exact .storeless hfault hstore
    | some s => exact .written hfault hstore (s.recorded_record edit)

/-- To record an edit changes nothing but the store. -/
lemma view_record (edit : StaticEdit) : (n.record edit).1.view = n.view := by
  have hrecorded := n.recorded_record edit
  generalize n.record edit = x at hrecorded ⊢
  cases hrecorded with
  | refused | storeless | written => rfl

/-- An edit is recorded and then carried out on the roster. -/
lemma edit_eq (edit : StaticEdit) : n.edit now edit =
    match n.record edit with
    | (n, .error fault) => (n, .error fault)
    | (n, .ok ()) =>
      ({ n with view.cluster.nodes := (edit.stage n.this).finish now n.view.cluster.nodes }, .ok ()) := by
  cases edit with
  | add entry =>
    simp only [EndNode.edit, addLocal, record, StaticEdit.fault?]
    cases entry.fault? n.this with
    | some fault => rfl
    | none =>
      simp only [Option.map_none, Store.record]
      generalize n.editStore (·.addStatic entry) = x
      obtain ⟨n', fault | u⟩ := x
      · rfl
      · simp only [StaticEdit.stage, Stage.finish_promoting]
  | delete name =>
    simp only [EndNode.edit, deleteNode, record, StaticEdit.fault?, Store.record]
    generalize n.editStore (·.removeStatic name) = x
    obtain ⟨n', fault | u⟩ := x <;> rfl

/-- An edit that fails leaves the node as it was, with all that is in its store, unless the file of the
store is out of reach.  Then the peers are as they were, but the list in the store is the edited one. -/
theorem eq_or_withStatic_of_edit_error {edit : StaticEdit} {fault : ConfigError}
    (h : (n.edit now edit).2 = .error fault) :
    (n.edit now edit).1 = n ∨
      fault = .io ∧ ∃ s entries, n.store = some s ∧ s.backing = .lost ∧ s.staticList = .ok entries ∧
        (n.edit now edit).1 = { n with store := some (s.withStatic (edit.apply entries)) } := by
  have hrecorded := n.recorded_record edit
  rw [edit_eq] at h ⊢
  generalize n.record edit = x at h hrecorded ⊢
  obtain ⟨n', fault' | u⟩ := x
  · cases h
    cases hrecorded with
    | refused => exact .inl rfl
    | @written s s' _ hfault hstore hrecorded =>
      cases hrecorded with
      | unread =>
        rw [← hstore]
        exact .inl rfl
      | @unsaved entries hlist hfile => exact .inr ⟨rfl, s, entries, hstore, hfile, hlist, rfl⟩
  · cases h

/-- A node with a store that lists `b`, which cannot be written, refuses an entry with its own name. -/
theorem eq_or_withStatic_of_edit_error_ownName :
    let b : StaticNode := ⟨"b", "10.0.0.2", 5000⟩
    let s : Store := (Store.withStatic ⟨[], .file ""⟩ [b]).lose
    let n :=
      { Settings.new ⟨"a", "10.0.0.1", 5000, "prod"⟩ "secret" Unconfigured.mk with store := some s }.built 0
    let edit : StaticEdit := .add ⟨"a", "10.0.0.2", 5001⟩
    (n.edit 1 edit).2 = .error (.staticNode "a" .ownName) ∧ (n.edit 1 edit).1 = n := by
  intro b s n edit
  have hfault : (n.edit 1 edit).2 = .error (.staticNode "a" .ownName) := by decide +kernel
  refine ⟨hfault, (n.eq_or_withStatic_of_edit_error 1 hfault).resolve_right ?_⟩
  rintro ⟨hio, -⟩
  cases hio

/-- The file of a store that lists `b` is out of reach.  To delete `b` fails, and `b` stays a peer, but it is
no longer listed; so to delete it once more succeeds, although the file has never been written. -/
theorem edit_of_lost_file :
    let b : StaticNode := ⟨"b", "10.0.0.2", 5000⟩
    let s : Store := (Store.withStatic ⟨[], .file ""⟩ [b]).lose
    let n :=
      { Settings.new ⟨"a", "10.0.0.1", 5000, "prod"⟩ "secret" Unconfigured.mk with store := some s }.built 0
    let failed := n.edit 1 (.delete "b")
    let again := failed.1.edit 2 (.delete "b")
    n.store.map (·.staticList) = some (.ok [b]) ∧ failed.2 = .error .io ∧
      failed.1.view = n.view ∧ failed.1.store.map (·.staticList) = some (.ok []) ∧
      again.2 = .ok () ∧ again.1.view.names = [] := by
  decide +kernel

end EndNode

end Flotilla
