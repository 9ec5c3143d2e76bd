import Mathlib.Tactic.Common
import Flotilla.Engine.Memory
import Flotilla.Operation

/-!
# Runs of an engine in memory

An engine carries out tasks and counts traffic.  `MemoryEngine.settled_step` says what may come of an event:
it fails and leaves the engine as it was, or it succeeds and makes one of the changes that there are to the
inbounds and their users.
-/

namespace Flotilla

namespace MemoryEngine

variable {e e' : MemoryEngine} {tag : String}

/-! ### Calls -/

lemma Effect.map_giving {α β : Type} (c : Effect) (a : α) (f : α → β) :
    ((c.giving a).1, (c.giving a).2.map f) = c.giving (f a) := by
  rw [giving, giving, map, map]
  cases c.fault? <;> rfl

/-- A call gives a value if and only if nothing is wrong with it. -/
lemma Effect.giving_eq_ok_iff {α : Type} {c : Effect} {a b : α} :
    (c.giving a).2 = .ok b ↔ c.fault? = none ∧ a = b := by
  rw [giving, map]
  cases c.fault? with
  | none => simp
  | some fault => simp

/-- What a task comes to on an engine in memory. -/
@[simp] lemma run_addUsers (users : List User) (now : Instant) :
    (Task.addUsers users).run now e = (e.addUsers users).giving .done :=
  Effect.map_giving ..

@[simp] lemma run_deleteUsers (tag : String) (emails : List String) (now : Instant) :
    (Task.deleteUsers tag emails).run now e = (e.removeUsers tag emails).giving .done :=
  Effect.map_giving ..

@[simp] lemma run_getUsers (tag : String) (now : Instant) :
    (Task.getUsers tag).run now e = (e, (e.getUsers tag).map .users) := rfl

@[simp] lemma run_addInbound (i : Inbound) (now : Instant) :
    (Task.addInbound i).run now e = (e.addInbound i).giving .done :=
  Effect.map_giving ..

@[simp] lemma run_deleteInbound (tag : String) (now : Instant) :
    (Task.deleteInbound tag).run now e = (e.deleteInbound tag).giving .done :=
  Effect.map_giving ..

@[simp] lemma run_getStats (pattern : String) (reset : Bool) (now : Instant) :
    (Task.getStats pattern reset).run now e =
      ((e.queryStats pattern reset).1, .ok (.stats (e.queryStats pattern reset).2)) := rfl

@[simp] lemma run_obtainCert (domain : String) (now : Instant) :
    (Task.obtainCert domain).run now e =
      if domain = "" then (e, .error .emptyDomain)
      else ({ e with certs := e.certs.insert domain (issueCert domain now) }, .ok .done) := by
  simp only [Task.run, Task.call, EngineCall.map, CertManager.obtainCert, obtainCert]
  split_ifs <;> rfl

@[simp] lemma run_getCerts (domain : String) (now : Instant) :
    (Task.getCerts domain).run now e =
      (e, .ok (.certs (if domain = "" then e.allCerts else (e.getCert domain).toList))) := by
  simp only [Task.run, Task.call]
  split_ifs <;> rfl

/-- Nothing speaks against a user if there is its inbound, and no user of its email there. -/
lemma userFault?_eq_none_iff {u : User} :
    e.userFault? u = none ↔ u.inboundTag ∈ e.inbounds ∧ u.email ∉ e.usersOf u.inboundTag := by
  by_cases htag : u.inboundTag ∈ e.inbounds
  · have hcontains : e.inbounds.contains u.inboundTag = true := Std.ExtTreeMap.contains_iff_mem.2 htag
    by_cases hemail : u.email ∈ e.usersOf u.inboundTag
    · simp [userFault?, hcontains, hemail]
    · simp [userFault?, hcontains, htag, hemail]
  · have hcontains : e.inbounds.contains u.inboundTag = false :=
      Bool.eq_false_iff.2 (mt Std.ExtTreeMap.contains_iff_mem.1 htag)
    simp [userFault?, hcontains, htag]

/-- An inbound is added if its tag and its port are free. -/
lemma addInbound_cases (e : MemoryEngine) (i : Inbound) :
    (∃ fault, e.addInbound i = .failed e fault) ∨
      i.tag ∉ e.inbounds ∧ (∀ other ∈ e.inbounds.values, other.port ≠ i.port) ∧
        e.addInbound i = .done { e with inbounds := e.inbounds.insert i.tag i } := by
  rw [addInbound]
  split_ifs with htag hport
  · exact .inl ⟨_, rfl⟩
  · exact .inl ⟨_, rfl⟩
  · refine .inr ⟨mt Std.ExtTreeMap.contains_iff_mem.2 htag, ?_, rfl⟩
    simpa using hport

/-- To delete an inbound that is not there changes nothing, though it is taken out. -/
lemma deleteInbound_cases (e : MemoryEngine) (tag : String) :
    (∃ fault, e.deleteInbound tag = .failed e fault) ∨
      e.deleteInbound tag =
        .done { e with inbounds := e.inbounds.erase tag, users := e.users.erase tag } := by
  rw [deleteInbound]
  by_cases htag : tag ∈ e.inbounds
  · rw [if_pos (Std.ExtTreeMap.contains_iff_mem.2 htag)]
    exact .inr rfl
  · rw [if_neg (mt Std.ExtTreeMap.contains_iff_mem.1 htag), Table.erase_eq_self htag]
    exact .inl ⟨_, rfl⟩

/-- Whose users are asked for is an inbound that is there. -/
lemma getUsers_eq_ok_iff {users : List User} :
    e.getUsers tag = .ok users ↔ tag ∈ e.inbounds ∧ users = (e.usersOf tag).values := by
  rw [getUsers]
  by_cases htag : tag ∈ e.inbounds
  · rw [if_pos (Std.ExtTreeMap.contains_iff_mem.2 htag), Except.ok.injEq, eq_comm]
    exact ⟨fun h => ⟨htag, h⟩, fun h => h.2⟩
  · rw [if_neg (mt Std.ExtTreeMap.contains_iff_mem.1 htag)]
    constructor
    · intro h
      cases h
    · exact fun h => absurd h.1 htag

/-! ### Events -/

/-- What may happen to an engine. -/
inductive Event where
  /-- A task is carried out, or fails. -/
  | task (t : Task) (now : Instant)
  /-- Traffic is counted. -/
  | traffic (name : String) (delta : Int64)

def step (e : MemoryEngine) : Event → MemoryEngine × Except EngineError Outcome
  | .task t now => t.run now e
  | .traffic name delta => (e.recordTraffic name delta, .ok .done)

def run (e : MemoryEngine) (es : List Event) : MemoryEngine := es.foldl (fun e event => (e.step event).1) e

/-! ### What comes of an event -/

/-- All that may become of the inbounds and their users. -/
inductive Change (e e' : MemoryEngine) : Prop
  | kept (hinbounds : e'.inbounds = e.inbounds) (husers : e'.users = e.users)
  | opened (i : Inbound) (htag : i.tag ∉ e.inbounds)
      (hport : ∀ other ∈ e.inbounds.values, other.port ≠ i.port)
      (hinbounds : e'.inbounds = e.inbounds.insert i.tag i) (husers : e'.users = e.users)
  | closed (tag : String) (hinbounds : e'.inbounds = e.inbounds.erase tag)
      (husers : e'.users = e.users.erase tag)
  | joined (users : List User)
      (hfree : ∀ u ∈ users, u.inboundTag ∈ e.inbounds ∧ u.email ∉ e.usersOf u.inboundTag)
      (hputs : e' = users.foldl putUser e)
  | left (tag : String) (emails : List String) (users : Table User) (hold : e.users[tag]? = some users)
      (hinbounds : e'.inbounds = e.inbounds)
      (husers : e'.users = e.users.insert tag (emails.foldl (·.erase ·) users))

/-- All that may come of an event: it fails and leaves everything as it was, or it succeeds. -/
inductive Settled (e : MemoryEngine) : MemoryEngine × Except EngineError Outcome → Prop
  | failed (fault : EngineError) : Settled e (e, .error fault)
  | succeeded {e' : MemoryEngine} (outcome : Outcome) (hchange : e.Change e') : Settled e (e', .ok outcome)

/-- Users that are added leave the other parts of the engine alone. -/
lemma settled_addUsers (e : MemoryEngine) (users : List User) :
    e.Settled ((e.addUsers users).giving .done) := by
  rw [addUsers]
  cases hfault : users.findSome? e.userFault? with
  | some fault => exact .failed fault
  | none =>
    refine .succeeded .done (.joined users (fun u hu => ?_) rfl)
    exact userFault?_eq_none_iff.1 (List.findSome?_eq_none_iff.1 hfault u hu)

lemma settled_removeUsers (e : MemoryEngine) (tag : String) (emails : List String) :
    e.Settled ((e.removeUsers tag emails).giving .done) := by
  rw [removeUsers]
  cases hold : e.users[tag]? with
  | none => exact .failed _
  | some users => exact .succeeded .done (.left tag emails users hold rfl rfl)

lemma settled_addInbound (e : MemoryEngine) (i : Inbound) :
    e.Settled ((e.addInbound i).giving .done) := by
  rcases e.addInbound_cases i with ⟨fault, heffect⟩ | ⟨htag, hport, heffect⟩
  · rw [heffect]
    exact .failed fault
  · rw [heffect]
    exact .succeeded .done (.opened i htag hport rfl rfl)

lemma settled_deleteInbound (e : MemoryEngine) (tag : String) :
    e.Settled ((e.deleteInbound tag).giving .done) := by
  rcases e.deleteInbound_cases tag with ⟨fault, heffect⟩ | heffect
  · rw [heffect]
    exact .failed fault
  · rw [heffect]
    exact .succeeded .done (.closed tag rfl rfl)

/-- A task changes one part of the engine, or nothing if it fails. -/
lemma settled_run (e : MemoryEngine) (now : Instant) (t : Task) : e.Settled (t.run now e) := by
  cases t with
  | addUsers users =>
    rw [run_addUsers]
    exact e.settled_addUsers users
  | deleteUsers tag emails =>
    rw [run_deleteUsers]
    exact e.settled_removeUsers tag emails
  | addInbound i =>
    rw [run_addInbound]
    exact e.settled_addInbound i
  | deleteInbound tag =>
    rw [run_deleteInbound]
    exact e.settled_deleteInbound tag
  | getUsers tag =>
    rw [run_getUsers]
    cases e.getUsers tag with
    | error fault => exact .failed fault
    | ok users => exact .succeeded _ (.kept rfl rfl)
  | getStats pattern reset => cases reset <;> exact .succeeded _ (.kept rfl rfl)
  | obtainCert domain =>
    rw [run_obtainCert]
    split_ifs with hdomain
    · exact .failed _
    · exact .succeeded _ (.kept rfl rfl)
  | getCerts domain =>
    rw [run_getCerts]
    exact .succeeded _ (.kept rfl rfl)

/-- An event changes one part of the engine, or nothing if it fails. -/
lemma settled_step (e : MemoryEngine) (event : Event) : e.Settled (e.step event) := by
  cases event with
  | task t now => exact e.settled_run now t
  | traffic name delta => exact .succeeded .done (.kept rfl rfl)

namespace Settled

variable {r : MemoryEngine × Except EngineError Outcome}

lemma change (h : e.Settled r) : e.Change r.1 := by
  cases h with
  | failed fault => exact .kept rfl rfl
  | succeeded outcome hchange => exact hchange

/-- What fails changes nothing. -/
lemma eq_of_error (h : e.Settled r) {fault : EngineError} (hfault : r.2 = .error fault) : r.1 = e := by
  cases h with
  | failed fault => rfl
  | succeeded outcome hchange => cases hfault

end Settled

end MemoryEngine

end Flotilla
