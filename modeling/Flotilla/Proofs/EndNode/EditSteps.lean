import Flotilla.Proofs.EndNode.Persistence

/-!
# Edits, step by step

A call that edits the static peers of a node reads the list in the store, sets it and flushes it, and then it
goes on to the roster.  It lets go of the lock of the store after each step, and between its steps others may
write to the store and to the roster.
-/

namespace Flotilla

namespace Store

/-- Writes a document to the file, if there is one. -/
def write (s : Store) (content : String) : Except ConfigError Store :=
  match s.backing with
  | .memory => .ok s
  | .file _ => .ok { s with backing := .file content }
  | .lost => .error .io

variable {s s' : Store} {content : String}

/-- To flush a store is to render it and to write the document. -/
lemma flush_eq_write (s : Store) : s.flush = s.write (Toml.render s.entries) := by
  cases hbacking : s.backing <;> simp only [flush, write, hbacking]

lemma write_of_file {old : String} (h : s.backing = .file old) (content : String) :
    s.write content = .ok { s with backing := .file content } := by
  rw [write, h]

/-- Nothing can be written once the file is lost. -/
lemma write_of_lost (h : s.backing = .lost) (content : String) : s.write content = .error .io := by
  rw [write, h]

lemma write_render (h : s.backing ≠ .lost) : s.write (Toml.render s.entries) = .ok s.flushed := by
  cases hbacking : s.backing with
  | memory | file old => simp only [write, flushed, hbacking]
  | lost => exact absurd hbacking h

/-- Whatever is written to the file, the store is read as before. -/
lemma staticList_of_write (h : s.write content = .ok s') : s'.staticList = s.staticList := by
  unfold write at h
  cases hbacking : s.backing with
  | memory | file old =>
    rw [hbacking] at h
    cases h
    rfl
  | lost =>
    rw [hbacking] at h
    cases h

end Store

/-- How far a call has come. -/
inductive EditProgress where
  | reading
  | setting (entries : List StaticNode)
  | rendering
  | writing (content : String)
  | editing (stage : Stage)
  | failed (fault : ConfigError)
  deriving DecidableEq

namespace EditProgress

/-- A call comes to the store once its edit has been checked. -/
def start (this : Identity) (edit : StaticEdit) : EditProgress :=
  match edit.fault? this with
  | some fault => .failed fault
  | none => .reading

/-- One step of a call: what it makes of the store and of the roster, and how far it is then. -/
def step (this : Identity) (edit : StaticEdit) (now : Instant) (s : Store) (r : Roster) :
    EditProgress → Store × Roster × EditProgress
  | .reading =>
    match s.staticList with
    | .error fault => (s, r, .failed fault)
    | .ok entries =>
      (s, r, if edit.writes entries then .setting (edit.apply entries) else .editing (edit.stage this))
  | .setting entries =>
    match s.setStatic Store.staticKey entries with
    | .error fault => (s, r, .failed fault)
    | .ok s => (s, r, .rendering)
  | .rendering => (s, r, .writing (Toml.render s.entries))
  | .writing content =>
    match s.write content with
    | .error fault => (s, r, .failed fault)
    | .ok s => (s, r, .editing (edit.stage this))
  | .editing stage =>
    let (r, stage) := stage.step now r
    (s, r, .editing stage)
  | .failed fault => (s, r, .failed fault)

section Step

variable (this : Identity) (edit : StaticEdit) (now : Instant) {s : Store} (r : Roster)

/-- A list that cannot be read ends the call before anything is changed. -/
lemma step_reading_of_error {fault : ConfigError} (h : s.staticList = .error fault) :
    step this edit now s r .reading = (s, r, .failed fault) := by
  rw [step, h]

/-- A list that does not change is not written. -/
lemma step_reading_of_ok {entries : List StaticNode} (h : s.staticList = .ok entries) :
    step this edit now s r .reading = (s, r,
      if edit.writes entries then .setting (edit.apply entries) else .editing (edit.stage this)) := by
  rw [step, h]

/-- The list in memory is replaced before the file is written. -/
lemma step_setting (entries : List StaticNode) :
    step this edit now s r (.setting entries) = (s.withStatic entries, r, .rendering) := by
  rw [step, Store.setStatic_staticKey]

lemma step_editing (stage : Stage) : step this edit now s r (.editing stage) =
    (s, (stage.step now r).1, .editing (stage.step now r).2) := rfl

/-- A write that fails ends the call, and the list in memory stays replaced. -/
lemma step_writing_of_error {content : String} {fault : ConfigError} (h : s.write content = .error fault) :
    step this edit now s r (.writing content) = (s, r, .failed fault) := by
  rw [step, h]

lemma step_writing_of_ok {content : String} {s' : Store} (h : s.write content = .ok s') :
    step this edit now s r (.writing content) = (s', r, .editing (edit.stage this)) := by
  rw [step, h]

end Step

/-- What comes out of a call that has come to its end. -/
def outcome? : EditProgress → Option (Except ConfigError Unit)
  | .editing .done => some (.ok ())
  | .failed fault => some (.error fault)
  | _ => none

/-- The call has read the list and is about to set it. -/
def IsSetting (p : EditProgress) : Prop := ∃ entries, p = .setting entries

/-- The call has set the list and has yet to flush it. -/
def IsFlushing (p : EditProgress) : Prop := p = .rendering ∨ ∃ content, p = .writing content

/-- The call has read the list and has yet to set or to flush it. -/
def IsStoring (p : EditProgress) : Prop := p.IsSetting ∨ p.IsFlushing

/-- The call has set the list, or it does not have to. -/
def IsPast (p : EditProgress) : Prop := p.IsFlushing ∨ ∃ stage, p = .editing stage

lemma IsPast.not_isSetting {p : EditProgress} (h : p.IsPast) : ¬ p.IsSetting := by
  rintro ⟨entries, rfl⟩
  rcases h with (h | ⟨content, h⟩) | ⟨stage, h⟩ <;> cases h

lemma not_isPast_reading : ¬ IsPast .reading := by
  rintro ((h | ⟨content, h⟩) | ⟨stage, h⟩) <;> cases h

/-- A call begins by reading, unless the edit is refused at once. -/
lemma start_cases (this : Identity) (edit : StaticEdit) :
    start this edit = .reading ∨ ∃ fault, start this edit = .failed fault := by
  unfold start
  cases edit.fault? this with
  | none => exact .inl rfl
  | some fault => exact .inr ⟨fault, rfl⟩

/-- The ways in which a call takes a step. -/
inductive Advance (this : Identity) (edit : StaticEdit) (now : Instant) (s : Store) (r : Roster) :
    EditProgress → Store → Roster → EditProgress → Prop where
  | unread {fault : ConfigError} (hlist : s.staticList = .error fault) :
      Advance this edit now s r .reading s r (.failed fault)
  | skipped {entries : List StaticNode} (hlist : s.staticList = .ok entries)
      (hsame : edit.apply entries = entries) :
      Advance this edit now s r .reading s r (.editing (edit.stage this))
  | read {entries : List StaticNode} (hlist : s.staticList = .ok entries) :
      Advance this edit now s r .reading s r (.setting (edit.apply entries))
  | set {entries : List StaticNode} :
      Advance this edit now s r (.setting entries) (s.withStatic entries) r .rendering
  | rendered : Advance this edit now s r .rendering s r (.writing (Toml.render s.entries))
  | unwritten {content : String} {fault : ConfigError} (hwrite : s.write content = .error fault) :
      Advance this edit now s r (.writing content) s r (.failed fault)
  | written {content : String} {s' : Store} (hwrite : s.write content = .ok s') :
      Advance this edit now s r (.writing content) s' r (.editing (edit.stage this))
  | edited {stage : Stage} :
      Advance this edit now s r (.editing stage) s (stage.step now r).1 (.editing (stage.step now r).2)
  | failed {fault : ConfigError} : Advance this edit now s r (.failed fault) s r (.failed fault)

/-- A step is one of those that `Advance` lists. -/
lemma advance_step (this : Identity) (edit : StaticEdit) (now : Instant) (s : Store) (r : Roster)
    (p : EditProgress) :
    let (s', r', p') := p.step this edit now s r
    Advance this edit now s r p s' r' p' := by
  cases p with
  | reading =>
    cases hlist : s.staticList with
    | error fault =>
      rw [step_reading_of_error _ _ _ _ hlist]
      exact .unread hlist
    | ok entries =>
      rw [step_reading_of_ok _ _ _ _ hlist]
      cases hwrites : edit.writes entries with
      | true => exact .read hlist
      | false => exact .skipped hlist (StaticEdit.apply_of_writes_eq_false hwrites)
  | setting entries =>
    rw [step_setting]
    exact .set
  | rendering => exact .rendered
  | writing content =>
    cases hwrite : s.write content with
    | error fault =>
      rw [step_writing_of_error _ _ _ _ hwrite]
      exact .unwritten hwrite
    | ok s' =>
      rw [step_writing_of_ok _ _ _ _ hwrite]
      exact .written hwrite
  | editing stage => exact .edited
  | failed fault => exact .failed

/-! ### What a step makes of the list -/

/-- The steps of a call as the list shows them. -/
inductive Alters (edit : StaticEdit) (entries : List StaticNode) (p : EditProgress) :
    List StaticNode → EditProgress → Prop where
  | read (hp : p = .reading) : Alters edit entries p entries (.setting (edit.apply entries))
  | skipped {p' : EditProgress} (hp : p = .reading) (hp' : p'.IsPast) (hsame : edit.apply entries = entries) :
      Alters edit entries p entries p'
  | set {p' : EditProgress} {entries' : List StaticNode} (hp : p = .setting entries') (hp' : p'.IsPast) :
      Alters edit entries p entries' p'
  | kept {p' : EditProgress} (hp : p.IsPast) (hp' : p'.IsPast) : Alters edit entries p entries p'
  | failed {fault : ConfigError} : Alters edit entries p entries (.failed fault)

variable {this : Identity} {edit : StaticEdit} {now : Instant} {s s' : Store} {r r' : Roster}
  {p p' : EditProgress} {entries : List StaticNode}

/-- A call leaves a list that can be read. -/
lemma Advance.alters (h : Advance this edit now s r p s' r' p') (hlist : s.staticList = .ok entries) :
    ∃ entries', s'.staticList = .ok entries' ∧ Alters edit entries p entries' p' := by
  cases h with
  | unread | unwritten | failed => exact ⟨entries, hlist, .failed⟩
  | skipped hlist' hsame =>
    cases hlist.symm.trans hlist'
    exact ⟨entries, hlist, .skipped rfl (.inr ⟨_, rfl⟩) hsame⟩
  | read hlist' =>
    cases hlist.symm.trans hlist'
    exact ⟨entries, hlist, .read rfl⟩
  | @set entries' => exact ⟨entries', s.staticList_withStatic entries', .set rfl (.inl (.inl rfl))⟩
  | rendered => exact ⟨entries, hlist, .kept (.inl (.inl rfl)) (.inl (.inr ⟨_, rfl⟩))⟩
  | written hwrite =>
    exact ⟨entries, (Store.staticList_of_write hwrite).trans hlist,
      .kept (.inl (.inr ⟨_, rfl⟩)) (.inr ⟨_, rfl⟩)⟩
  | edited => exact ⟨entries, hlist, .kept (.inr ⟨_, rfl⟩) (.inr ⟨_, rfl⟩)⟩

namespace Alters

variable {entries' : List StaticNode}

/-- A call that has yet to read does so, or it fails. -/
lemma of_reading (h : Alters edit entries p entries' p') (hp : p = .reading) :
    entries' = entries ∧ (p' = .setting (edit.apply entries) ∨
      p'.IsPast ∧ edit.apply entries = entries ∨ ∃ fault, p' = .failed fault) := by
  subst hp
  cases h with
  | read => exact ⟨rfl, .inl rfl⟩
  | skipped _ hp' hsame => exact ⟨rfl, .inr (.inl ⟨hp', hsame⟩)⟩
  | set hp => cases hp
  | kept hp => exact absurd hp not_isPast_reading
  | failed => exact ⟨rfl, .inr (.inr ⟨_, rfl⟩)⟩

/-- A call that is about to set the list does so, or it fails. -/
lemma of_setting {target : List StaticNode} (h : Alters edit entries p entries' p')
    (hp : p = .setting target) : entries' = target ∧ p'.IsPast ∨ ∃ fault, p' = .failed fault := by
  subst hp
  cases h with
  | read hp | skipped hp => cases hp
  | set hp hp' =>
    cases hp
    exact .inl ⟨rfl, hp'⟩
  | kept hp => exact absurd ⟨_, rfl⟩ hp.not_isSetting
  | failed => exact .inr ⟨_, rfl⟩

/-- A call that is past the list leaves it alone. -/
lemma of_isPast (h : Alters edit entries p entries' p') (hp : p.IsPast) :
    entries' = entries ∧ (p'.IsPast ∨ ∃ fault, p' = .failed fault) := by
  cases h with
  | read hread | skipped hread => exact absurd (hread ▸ hp) not_isPast_reading
  | set hset => exact absurd ⟨_, hset⟩ hp.not_isSetting
  | kept _ hp' => exact ⟨rfl, .inl hp'⟩
  | failed => exact ⟨rfl, .inr ⟨_, rfl⟩⟩

/-- A call that has failed does nothing more. -/
lemma of_failed {fault : ConfigError} (h : Alters edit entries p entries' p') (hp : p = .failed fault) :
    ∃ fault, p' = .failed fault := by
  subst hp
  cases h with
  | read hp | skipped hp | set hp => cases hp
  | kept hp => rcases hp with (hp | ⟨content, hp⟩) | ⟨stage, hp⟩ <;> cases hp
  | failed => exact ⟨_, rfl⟩

end Alters

/-! ### What a step makes of the roster -/

/-- The record under the name of an edit, while the call that began with another one goes on. -/
inductive Carries (this : Identity) (edit : StaticEdit) (known : Option Node) :
    EditProgress → Option Node → Prop where
  | waiting {p : EditProgress} (hp : ∀ stage, p ≠ .editing stage) : Carries this edit known p known
  | staged : Carries this edit known (.editing (edit.stage this)) known
  | placing {entry : StaticNode} (hedit : edit = .add entry)
      (hid : ∀ node, known = some node → node.identity ≠ entry.identity this) :
      Carries this edit known (.editing (.placing (entry.identity this))) known
  | done {left : Option Node} (now : Instant) (hleaves : edit.Leaves this now known left) :
      Carries this edit known (.editing .done) left

namespace Carries

variable {known found : Option Node}

lemma isAbout {stage : Stage} (h : Carries this edit known (.editing stage) found) :
    stage.IsAbout edit.name := by
  cases h with
  | waiting hp => exact absurd rfl (hp _)
  | staged => exact edit.isAbout_stage this
  | placing hedit => exact hedit ▸ rfl
  | done => trivial

/-- A call that has not come to the roster has left the record of its name alone. -/
lemma eq_of_waiting (h : Carries this edit known p found) (hp : ∀ stage, p ≠ .editing stage) :
    found = known := by
  cases h with
  | waiting => rfl
  | staged | placing | done => exact absurd rfl (hp _)

/-- Once the call is done, its edit is in the roster. -/
lemma leaves (h : Carries this edit known (.editing .done) found) :
    ∃ now, edit.Leaves this now known found := by
  generalize hp : EditProgress.editing .done = p at h
  cases h with
  | waiting hwaiting => exact absurd hp.symm (hwaiting _)
  | staged => cases edit <;> cases hp
  | placing => cases hp
  | done now hleaves => exact ⟨now, hleaves⟩

/-- The call takes a step on the roster. -/
lemma edited {stage stage' : Stage} {left : Option Node} (h : Carries this edit known (.editing stage) found)
    (hstage : stage.Advance now found left stage') : Carries this edit known (.editing stage') left := by
  cases h with
  | waiting hp => exact absurd rfl (hp _)
  | staged =>
    cases edit with
    | add entry =>
      cases hstage with
      | promoted hid => exact .done now (.promoted hid)
      | differs hid => exact .placing rfl hid
    | delete name =>
      cases hstage with
      | erased => exact .done now .erased
  | placing hedit hid =>
    subst hedit
    cases hstage with
    | placed => exact .done now (.replaced hid)
  | done stamp hleaves =>
    cases hstage with
    | idle => exact .done stamp hleaves

/-- The call takes a step. -/
lemma advance (h : Carries this edit known p (r.get? edit.name))
    (hadvance : Advance this edit now s r p s' r' p') : Carries this edit known p' (r'.get? edit.name) := by
  cases hadvance with
  | unread | read | set | rendered | unwritten | failed =>
    rw [h.eq_of_waiting nofun]
    exact .waiting nofun
  | skipped | written =>
    rw [h.eq_of_waiting nofun]
    exact .staged
  | edited => exact h.edited (Stage.advance_step now r h.isAbout)

/-- A step of a call leaves the records of all other names alone. -/
lemma get?_advance {key : String} (h : Carries this edit known p found)
    (hadvance : Advance this edit now s r p s' r' p') (hne : edit.name ≠ key) : r'.get? key = r.get? key := by
  cases hadvance with
  | edited => exact Stage.get?_step_of_ne now r h.isAbout hne
  | unread | skipped | read | set | rendered | unwritten | written | failed => rfl

end Carries

end EditProgress

end Flotilla
