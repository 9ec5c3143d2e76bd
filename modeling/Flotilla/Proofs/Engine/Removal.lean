import Flotilla.Proofs.Cluster.Records
import Flotilla.Proofs.Engine.Batches

/-!
# Removing users

An inbound gets its place in the table of users with the first users that are added to it, and keeps it until
it is deleted, also when all its users are gone.  The users of every inbound can be listed, but they can be
removed only from an inbound that has a place.  So an inbound that never had users is found by one operation
and not by the other.
-/

namespace Flotilla

namespace MemoryEngine

variable {e : MemoryEngine} {tag other : String} {users : List User} {emails : List String}

/-! ### The place of an inbound -/

def Event.AddsTo (e : MemoryEngine) (tag : String) : Event → Prop
  | .task (.addUsers users) _ => (e.addUsers users).fault? = none ∧ ∃ u ∈ users, u.inboundTag = tag
  | _ => False

def Event.Deletes (tag : String) : Event → Prop
  | .task (.deleteInbound deleted) _ => deleted = tag
  | _ => False

/-- In a run that begins without inbounds, users were added to an inbound that was not deleted since. -/
def HadUsers (es : List Event) (tag : String) : Prop :=
  ∃ before event after, es = before ++ event :: after ∧ event.AddsTo (empty.run before) tag ∧
    ∀ later ∈ after, ¬ later.Deletes tag

lemma run_snoc (e : MemoryEngine) (es : List Event) (event : Event) :
    e.run (es ++ [event]) = ((e.run es).step event).1 := by
  simp [run]

/-- Only the last event can add to what was there, or delete it. -/
lemma hadUsers_snoc {es : List Event} {event : Event} :
    HadUsers (es ++ [event]) tag ↔
      event.AddsTo (empty.run es) tag ∨ HadUsers es tag ∧ ¬ event.Deletes tag := by
  constructor
  · rintro ⟨before, added, after, hes, hadds, hstays⟩
    obtain ⟨rfl, rfl, -⟩ | ⟨later, rfl, rfl⟩ := append_cons_eq_snoc_iff.1 hes.symm
    · exact .inl hadds
    · refine .inr ⟨⟨before, added, later, rfl, hadds, fun e he => ?_⟩, hstays event (by simp)⟩
      exact hstays e (List.mem_append_left _ he)
  · rintro (hadds | ⟨⟨before, added, after, rfl, hadds, hstays⟩, hevent⟩)
    · exact ⟨es, event, [], rfl, hadds, nofun⟩
    · refine ⟨before, added, after ++ [event], by simp, hadds, fun later hlater => ?_⟩
      rcases List.mem_append.1 hlater with hlater | hlater
      · exact hstays later hlater
      · exact List.mem_singleton.1 hlater ▸ hevent

/-- An inbound has users after they were put, or had some before. -/
lemma mem_users_foldl_putUser :
    tag ∈ (users.foldl putUser e).users ↔ (∃ u ∈ users, u.inboundTag = tag) ∨ tag ∈ e.users := by
  induction users generalizing e with
  | nil => simp
  | cons u users ih =>
    have hput : tag ∈ (e.putUser u).users ↔ u.inboundTag = tag ∨ tag ∈ e.users := by
      rw [putUser, Std.ExtTreeMap.mem_insert, Std.LawfulEqCmp.compare_eq_iff_eq]
    rw [List.foldl_cons, ih, hput]
    simp only [List.mem_cons, exists_eq_or_imp, or_assoc, or_left_comm]

lemma mem_users_addUsers : tag ∈ (e.addUsers users).state.users ↔
    ((e.addUsers users).fault? = none ∧ ∃ u ∈ users, u.inboundTag = tag) ∨ tag ∈ e.users := by
  rw [addUsers]
  cases users.findSome? e.userFault? with
  | some fault => simp [Effect.failed]
  | none => simpa [Effect.done] using mem_users_foldl_putUser

lemma mem_users_removeUsers : tag ∈ (e.removeUsers other emails).state.users ↔ tag ∈ e.users := by
  rw [removeUsers]
  cases hold : e.users[other]? with
  | none => rfl
  | some users =>
    have hother : other ∈ e.users := Std.ExtTreeMap.mem_iff_isSome_getElem?.2 (by simp [hold])
    simp only [Effect.done, Std.ExtTreeMap.mem_insert, Std.LawfulEqCmp.compare_eq_iff_eq]
    exact ⟨fun h => h.elim (· ▸ hother) id, .inr⟩

/-- A tag without an inbound has no place to lose. -/
lemma Consistent.users_deleteInbound (h : e.Consistent) :
    (e.deleteInbound tag).state.users = e.users.erase tag := by
  rw [deleteInbound]
  by_cases htag : tag ∈ e.inbounds
  · rw [if_pos (Std.ExtTreeMap.contains_iff_mem.2 htag)]
    rfl
  · rw [if_neg (mt Std.ExtTreeMap.contains_iff_mem.1 htag), Effect.failed,
      Table.erase_eq_self (mt (h.mem_inbounds tag) htag)]

/-- In a consistent engine the user map of an inbound appears with its first user, and goes with the
inbound. -/
lemma Consistent.mem_users_step (h : e.Consistent) (event : Event) :
    tag ∈ (e.step event).1.users ↔ event.AddsTo e tag ∨ tag ∈ e.users ∧ ¬ event.Deletes tag := by
  cases event with
  | traffic name delta => simp [step, recordTraffic, Event.AddsTo, Event.Deletes]
  | task t now =>
    cases t with
    | addUsers users =>
      simp only [Event.AddsTo, Event.Deletes, not_false_eq_true, and_true]
      exact mem_users_addUsers
    | deleteUsers other emails =>
      simp only [Event.AddsTo, Event.Deletes, not_false_eq_true, and_true, false_or]
      exact mem_users_removeUsers
    | deleteInbound deleted =>
      have husers : (e.step (.task (.deleteInbound deleted) now)).1.users = e.users.erase deleted :=
        h.users_deleteInbound
      simp only [husers, Std.ExtTreeMap.mem_erase, Event.AddsTo, Event.Deletes, false_or, ne_eq,
        Std.LawfulEqCmp.compare_eq_iff_eq]
      exact and_comm
    | addInbound i =>
      have husers : (e.addInbound i).state.users = e.users := by
        rcases e.addInbound_cases i with ⟨fault, heffect⟩ | ⟨-, -, heffect⟩ <;> rw [heffect] <;> rfl
      simp only [Event.AddsTo, Event.Deletes, not_false_eq_true, and_true, false_or]
      exact husers ▸ Iff.rfl
    | getUsers other => simp [step, Event.AddsTo, Event.Deletes]
    | getStats pattern reset =>
      cases reset <;> simp [step, queryStats, Event.AddsTo, Event.Deletes]
    | obtainCert domain =>
      by_cases hdomain : domain = "" <;>
        simp [step, hdomain, Event.AddsTo, Event.Deletes]
    | getCerts domain => simp [step, Event.AddsTo, Event.Deletes]

/-- The inbounds with a place in the table of users are those that were given users since they were added. -/
lemma mem_users_run {es : List Event} : tag ∈ (empty.run es).users ↔ HadUsers es tag := by
  induction es using List.reverseRecOn with
  | nil => simp [run, empty, HadUsers]
  | append_singleton es event ih =>
    rw [run_snoc, (consistent_empty.run es).mem_users_step, hadUsers_snoc, ih]

/-! ### Who is left -/

lemma foldl_erase_eq_filter (emails : List String) (users : Table User) :
    emails.foldl (·.erase ·) users = users.filter fun email _ => !emails.contains email := by
  apply Std.ExtTreeMap.ext_getElem?
  intro email
  induction emails generalizing users with
  | nil =>
    rw [Std.ExtTreeMap.getElem?_filter', List.foldl_nil]
    cases users[email]? <;> rfl
  | cons gone emails ih =>
    rw [List.foldl_cons, ih]
    simp only [Std.ExtTreeMap.getElem?_filter', Std.ExtTreeMap.getElem?_erase,
      Std.LawfulEqCmp.compare_eq_iff_eq]
    by_cases hgone : gone = email
    · simp [hgone]
    · simp [hgone, Ne.symm hgone]

def listedWithout (emails : List String) (listing : List User) : List User :=
  listing.filter fun u => !emails.contains u.email

/-- Users that are removed are missing from the listing, and the others are in the same order. -/
lemma Consistent.values_foldl_erase (h : e.Consistent) (tag : String) (emails : List String) :
    (emails.foldl (·.erase ·) (e.usersOf tag)).values =
      listedWithout emails (e.usersOf tag).values := by
  rw [foldl_erase_eq_filter, Table.values_eq_map_toList, Std.ExtTreeMap.toList_filter,
    Table.values_eq_map_toList, listedWithout, List.filter_map]
  congr 1
  refine List.filter_congr fun entry hentry => ?_
  have hget := Std.ExtTreeMap.mem_toList_iff_getElem?_eq_some.1 hentry
  rw [Function.comp_apply, (h.user_eq_of_usersOf hget).2]

/-- Users are removed from an inbound that has a user map. -/
lemma removeUsers_of_mem (htag : tag ∈ e.users) : e.removeUsers tag emails =
    .done { e with users := e.users.insert tag (emails.foldl (·.erase ·) (e.usersOf tag)) } := by
  obtain ⟨users, hget⟩ := Option.isSome_iff_exists.1 (Std.ExtTreeMap.mem_iff_isSome_getElem?.1 htag)
  rw [removeUsers, usersOf_eq, hget]
  rfl

/-- An inbound that never had users counts as missing. -/
lemma removeUsers_of_not_mem (htag : tag ∉ e.users) :
    e.removeUsers tag emails = .failed e (.inboundNotFound tag) := by
  rw [removeUsers, Std.ExtTreeMap.getElem?_eq_none htag]

lemma getUsers_of_mem (htag : tag ∈ e.inbounds) : e.getUsers tag = .ok (e.usersOf tag).values :=
  getUsers_eq_ok_iff.2 ⟨htag, rfl⟩

lemma getUsers_of_not_mem (htag : tag ∉ e.inbounds) : e.getUsers tag = .error (.inboundNotFound tag) := by
  rw [getUsers, if_neg (mt Std.ExtTreeMap.contains_iff_mem.1 htag)]

lemma getUsers_removeUsers_of_ne (h : other ≠ tag) :
    (e.removeUsers tag emails).state.getUsers other = e.getUsers other := by
  by_cases htag : tag ∈ e.users
  · have husers (users : Table User) :
        ({ e with users := e.users.insert tag users } : MemoryEngine).usersOf other = e.usersOf other := by
      rw [usersOf_eq, usersOf_eq, Table.getElem?_insert_eq, if_neg h.symm]
    rw [removeUsers_of_mem htag, getUsers, getUsers, Effect.done, husers]
  · rw [removeUsers_of_not_mem htag]
    rfl

/-- What the two operations on the users of an inbound find, after any events.  Without an inbound of the tag
neither of them finds one.  If the inbound was given users since it was added, both find it, and who is listed
after the removal was listed before and is not among those removed.  But if it is there and never was given
users, they disagree: nobody is listed, and the removal finds no inbound.  The other inbounds and, if it fails,
all else is as it was. -/
theorem removeUsers_and_getUsers_run (es : List Event) (tag : String) (emails : List String) :
    let e := empty.run es
    let missing : EngineError := .inboundNotFound tag
    (tag ∉ e.inbounds → e.getUsers tag = .error missing ∧ e.removeUsers tag emails = .failed e missing) ∧
    (HadUsers es tag → ∃ listing, e.getUsers tag = .ok listing ∧
      (e.removeUsers tag emails).fault? = none ∧
      (e.removeUsers tag emails).state.getUsers tag = .ok (listedWithout emails listing)) ∧
    (tag ∈ e.inbounds → ¬ HadUsers es tag →
      e.getUsers tag = .ok [] ∧ e.removeUsers tag emails = .failed e missing) ∧
    ∀ other, other ≠ tag → (e.removeUsers tag emails).state.getUsers other = e.getUsers other := by
  intro e missing
  have h : e.Consistent := consistent_empty.run es
  refine ⟨fun htag => ?_, fun hhad => ?_, fun htag hnever => ?_, fun other => getUsers_removeUsers_of_ne⟩
  · exact ⟨getUsers_of_not_mem htag, removeUsers_of_not_mem (mt (h.mem_inbounds tag) htag)⟩
  · have hplace : tag ∈ e.users := mem_users_run.2 hhad
    have htag : tag ∈ e.inbounds := h.mem_inbounds tag hplace
    refine ⟨_, getUsers_of_mem htag, ?_, ?_⟩
    · rw [removeUsers_of_mem hplace]
      rfl
    · rw [removeUsers_of_mem hplace, ← h.values_foldl_erase, Effect.done, getUsers_of_mem (by exact htag),
        usersOf_eq, Std.ExtTreeMap.getElem?_insert_self]
      rfl
  · have hplace : tag ∉ e.users := mt mem_users_run.1 hnever
    refine ⟨?_, removeUsers_of_not_mem hplace⟩
    rw [getUsers_of_mem htag, usersOf_eq, Std.ExtTreeMap.getElem?_eq_none hplace]
    rfl

/-- An inbound is added and never given users: they can be listed, but not removed. -/
theorem removeUsers_of_fresh_inbound :
    let e := empty.run [.task (.addInbound ⟨"in", "vless", 443, .null⟩) 0]
    e.getUsers "in" = .ok [] ∧ (e.removeUsers "in" ["a@x"]).fault? = some (.inboundNotFound "in") := by
  decide +kernel

end MemoryEngine

end Flotilla
