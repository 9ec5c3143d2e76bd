import Flotilla.Proofs.Engine.Consistency

/-!
# Users that are added together

A list of users is added in one go: either all of them are free to be added, or nothing changes.  Whether a
user is free is asked of the engine as it was before, so that a list may have several users of one inbound and
email.  Then the last one of them is added, where each of the others would have been refused had they come
one by one.
-/

namespace Flotilla

/-! ### Tables -/

namespace Table

variable {α : Type} (t : Table α) {key key' : String}

lemma getElem?_insert_eq (key : String) (a : α) (other : String) :
    (t.insert key a)[other]? = if key = other then some a else t[other]? := by
  rw [Std.ExtTreeMap.getElem?_insert]
  simp only [Std.LawfulEqCmp.compare_eq_iff_eq]

lemma insert_insert_self (key : String) (a b : α) : (t.insert key a).insert key b = t.insert key b := by
  apply Std.ExtTreeMap.ext_getElem?
  intro other
  simp only [getElem?_insert_eq]
  split_ifs <;> rfl

lemma insert_insert_comm (h : key ≠ key') (a b : α) :
    (t.insert key a).insert key' b = (t.insert key' b).insert key a := by
  apply Std.ExtTreeMap.ext_getElem?
  intro other
  simp only [getElem?_insert_eq]
  split_ifs with hkey' hkey
  · exact absurd (hkey.trans hkey'.symm) h
  all_goals rfl

end Table

/-- Where a user is stored: the inbound and the email. -/
def User.slot (u : User) : String × String := (u.inboundTag, u.email)

/-- The last user of each inbound and email. -/
def User.lastOfEach (users : List User) : List User := users.pwFilter fun u v => u.slot ≠ v.slot

lemma User.pairwise_lastOfEach (users : List User) :
    (lastOfEach users).Pairwise fun u v => u.slot ≠ v.slot := List.pairwise_pwFilter users

lemma User.lastOfEach_sublist (users : List User) : (lastOfEach users).Sublist users :=
  List.pwFilter_sublist users

/-- Nobody is left out just if no slot occurs twice. -/
lemma User.lastOfEach_eq_self_iff {users : List User} :
    lastOfEach users = users ↔ users.Pairwise fun u v => u.slot ≠ v.slot := List.pwFilter_eq_self

namespace MemoryEngine

variable {e e' : MemoryEngine} {u v : User} {users : List User}

/-- Adds users one by one, each of them in a call of its own. -/
def addEach (e : MemoryEngine) : List User → Except EngineError MemoryEngine
  | [] => .ok e
  | u :: users => (e.addUsers [u]).map id >>= fun e => e.addEach users

/-! ### Storing a user -/

/-- A user is stored with the inbound that it names, and nowhere else. -/
lemma usersOf_putUser (e : MemoryEngine) (u : User) (tag : String) : (e.putUser u).usersOf tag =
    if u.inboundTag = tag then (e.usersOf tag).insert u.email u else e.usersOf tag := by
  simp only [usersOf_eq, putUser, Table.getElem?_insert_eq]
  split_ifs with htag
  · subst htag
    rfl
  · rfl

/-- Of two users of one slot the later one is kept. -/
lemma putUser_putUser (e : MemoryEngine) (u v : User) : (e.putUser u).putUser v =
    { e with
      users := (e.users.insert u.inboundTag ((e.usersOf u.inboundTag).insert u.email u)).insert v.inboundTag
        ((if u.inboundTag = v.inboundTag then (e.usersOf v.inboundTag).insert u.email u
          else e.usersOf v.inboundTag).insert v.email v) } := by
  rw [putUser, usersOf_putUser]
  rfl

/-- Of two users of one inbound and email the second one is stored. -/
lemma putUser_putUser_of_slot_eq (e : MemoryEngine) (h : u.slot = v.slot) :
    (e.putUser u).putUser v = e.putUser v := by
  obtain ⟨htag, hemail⟩ := Prod.mk.inj h
  rw [putUser_putUser, if_pos htag, htag, hemail, Table.insert_insert_self, Table.insert_insert_self, putUser]

/-- Other users may be stored in any order. -/
lemma putUser_putUser_of_slot_ne (e : MemoryEngine) (h : u.slot ≠ v.slot) :
    (e.putUser u).putUser v = (e.putUser v).putUser u := by
  rw [putUser_putUser, putUser_putUser]
  by_cases htag : u.inboundTag = v.inboundTag
  · have hemail : u.email ≠ v.email := fun hemail => h (Prod.ext htag hemail)
    rw [if_pos htag, if_pos htag.symm, htag, Table.insert_insert_self, Table.insert_insert_self,
      Table.insert_insert_comm _ hemail]
  · rw [if_neg htag, if_neg (Ne.symm htag), Table.insert_insert_comm _ htag]

/-- A user is stored under the inbound and email, and all other users stay. -/
lemma getElem?_usersOf_putUser (e : MemoryEngine) (u : User) (tag email : String) :
    ((e.putUser u).usersOf tag)[email]? =
      if u.slot = (tag, email) then some u else (e.usersOf tag)[email]? := by
  rw [usersOf_putUser]
  by_cases htag : u.inboundTag = tag
  · rw [if_pos htag, Table.getElem?_insert_eq]
    simp only [User.slot, Prod.mk.injEq, htag, true_and]
  · have hslot : u.slot ≠ (tag, email) := fun h => htag (Prod.mk.inj h).1
    rw [if_neg htag, if_neg hslot]

/-- Whether a user may be added does not depend on users of other slots. -/
lemma userFault?_putUser_of_slot_ne (h : u.slot ≠ v.slot) :
    (e.putUser u).userFault? v = e.userFault? v := by
  have hslot : u.slot ≠ (v.inboundTag, v.email) := h
  have hcontains : ((e.putUser u).usersOf v.inboundTag).contains v.email =
      (e.usersOf v.inboundTag).contains v.email := by
    rw [Std.ExtTreeMap.contains_eq_isSome_getElem?, getElem?_usersOf_putUser, if_neg hslot,
      ← Std.ExtTreeMap.contains_eq_isSome_getElem?]
  have hinbounds : (e.putUser u).inbounds = e.inbounds := rfl
  rw [userFault?, userFault?, hcontains, hinbounds]

/-- What speaks against a user is a matter of the inbound and the email. -/
lemma userFault?_of_slot_eq (h : u.slot = v.slot) : e.userFault? u = e.userFault? v := by
  obtain ⟨htag, hemail⟩ := Prod.mk.inj h
  rw [userFault?, userFault?, htag, hemail]

/-- A user is in the way of others of the same inbound and email. -/
lemma slot_ne_of_userFault? (h : (e.putUser u).userFault? v = none) : u.slot ≠ v.slot := by
  intro hslot
  obtain ⟨-, hfree⟩ := userFault?_eq_none_iff.1 h
  have hget : ((e.putUser u).usersOf v.inboundTag)[v.email]? = some u := by
    rw [getElem?_usersOf_putUser]
    exact if_pos hslot
  exact hfree (Std.ExtTreeMap.mem_iff_isSome_getElem?.2 (by rw [hget]; rfl))

/-! ### One by one -/

/-- One fault among the users, and none of them is added. -/
lemma map_addUsers_of_fault {fault : EngineError} (h : users.findSome? e.userFault? = some fault) :
    (e.addUsers users).map id = .error fault := by
  rw [addUsers, h]
  rfl

lemma map_addUsers_of_none (h : users.findSome? e.userFault? = none) :
    (e.addUsers users).map id = .ok (users.foldl putUser e) := by
  rw [addUsers, h]
  rfl

/-- One by one, the first user with a fault is where it ends. -/
lemma addEach_cons_of_fault {fault : EngineError} (h : e.userFault? u = some fault) (users : List User) :
    e.addEach (u :: users) = .error fault := by
  have hfirst : [u].findSome? e.userFault? = some fault := by simp [h]
  rw [addEach, map_addUsers_of_fault hfirst]
  rfl

lemma addEach_cons_of_none (h : e.userFault? u = none) (users : List User) :
    e.addEach (u :: users) = (e.putUser u).addEach users := by
  have hfirst : [u].findSome? e.userFault? = none := by simp [h]
  rw [addEach, map_addUsers_of_none hfirst]
  rfl

/-- Users are added together if each of them could be added first. -/
lemma map_addUsers_eq_ok_iff : (e.addUsers users).map id = .ok e' ↔
    (∀ u ∈ users, e.userFault? u = none) ∧ e' = users.foldl putUser e := by
  cases hfault : users.findSome? e.userFault? with
  | some fault =>
    rw [map_addUsers_of_fault hfault]
    constructor
    · rintro ⟨⟩
    · rintro ⟨hfree, -⟩
      rw [List.findSome?_eq_none_iff.2 hfree] at hfault
      cases hfault
  | none =>
    rw [map_addUsers_of_none hfault, Except.ok.injEq, eq_comm]
    exact (and_iff_right (List.findSome?_eq_none_iff.1 hfault)).symm

/-- Users of different inbounds or emails are added together just as one by one. -/
lemma map_addUsers_eq_addEach (h : users.Pairwise fun u v => u.slot ≠ v.slot) :
    (e.addUsers users).map id = e.addEach users := by
  induction users generalizing e with
  | nil => rfl
  | cons u users ih =>
    obtain ⟨hu, hrest⟩ := List.pairwise_cons.1 h
    cases hfault : e.userFault? u with
    | some fault =>
      rw [addEach_cons_of_fault hfault, map_addUsers_of_fault (by rw [List.findSome?_cons, hfault])]
    | none =>
      rw [addEach_cons_of_none hfault, ← ih hrest]
      have hsame : users.findSome? (e.putUser u).userFault? = users.findSome? e.userFault? := by
        rw [← List.head?_filterMap, ← List.head?_filterMap]
        exact congrArg _ (List.filterMap_congr fun v hv => userFault?_putUser_of_slot_ne (hu v hv))
      cases hlater : users.findSome? e.userFault? with
      | some fault =>
        rw [map_addUsers_of_fault (by rw [List.findSome?_cons, hfault, hlater]),
          map_addUsers_of_fault (hsame.trans hlater)]
      | none =>
        rw [map_addUsers_of_none (by rw [List.findSome?_cons, hfault, hlater]),
          map_addUsers_of_none (hsame.trans hlater), List.foldl_cons]

/-- A list with two users of one inbound and email cannot be added one by one. -/
lemma pairwise_of_addEach (h : e.addEach users = .ok e') : users.Pairwise fun u v => u.slot ≠ v.slot := by
  induction users generalizing e with
  | nil => exact .nil
  | cons u users ih =>
    cases hfault : e.userFault? u with
    | some fault =>
      rw [addEach_cons_of_fault hfault] at h
      cases h
    | none =>
      rw [addEach_cons_of_none hfault] at h
      have hrest := ih h
      refine List.pairwise_cons.2 ⟨fun v hv => ?_, hrest⟩
      rw [← map_addUsers_eq_addEach hrest] at h
      exact slot_ne_of_userFault? ((map_addUsers_eq_ok_iff.1 h).1 v hv)

/-! ### The last of each -/

/-- A user who is followed by another one of the same inbound and email makes no difference. -/
lemma foldl_putUser_of_mem (hmem : v ∈ users) (h : u.slot = v.slot) :
    users.foldl putUser (e.putUser u) = users.foldl putUser e := by
  induction users generalizing e with
  | nil => cases hmem
  | cons w users ih =>
    rw [List.foldl_cons, List.foldl_cons]
    by_cases hw : u.slot = w.slot
    · rw [putUser_putUser_of_slot_eq e hw]
    · have hv : v ∈ users := (List.mem_cons.1 hmem).resolve_left fun hvw => hw (hvw ▸ h)
      rw [putUser_putUser_of_slot_ne e hw, ih hv]

lemma exists_mem_lastOfEach (hu : u ∈ users) : ∃ v ∈ User.lastOfEach users, u.slot = v.slot := by
  by_contra hnone
  have htrans {u v w : User} (h : u.slot ≠ w.slot) : u.slot ≠ v.slot ∨ v.slot ≠ w.slot := by
    by_contra hsame
    rw [not_or, not_not, not_not] at hsame
    exact h (hsame.1.trans hsame.2)
  have hall := List.forall_mem_pwFilter (R := fun u v : User => u.slot ≠ v.slot) htrans u users
  exact hall.1 (fun v hv h => hnone ⟨v, hv, h⟩) u hu rfl

/-- Storing users one after the other keeps the last of each slot. -/
lemma foldl_putUser_lastOfEach (e : MemoryEngine) (users : List User) :
    (User.lastOfEach users).foldl putUser e = users.foldl putUser e := by
  induction users generalizing e with
  | nil => rfl
  | cons u users ih =>
    by_cases hu : ∀ v ∈ User.lastOfEach users, u.slot ≠ v.slot
    · rw [User.lastOfEach, List.pwFilter_cons_of_pos hu, List.foldl_cons, List.foldl_cons]
      exact ih _
    · rw [User.lastOfEach, List.pwFilter_cons_of_neg hu, List.foldl_cons]
      obtain ⟨v, hv, hslot⟩ := not_forall₂.1 hu
      rw [foldl_putUser_of_mem ((User.lastOfEach_sublist users).subset hv) (not_not.1 hslot)]
      exact ih e

/-- A list is added together if the last users of each inbound and email can be added one by one. -/
lemma map_addUsers_eq_ok_iff_addEach :
    (e.addUsers users).map id = .ok e' ↔ e.addEach (User.lastOfEach users) = .ok e' := by
  rw [← map_addUsers_eq_addEach (User.pairwise_lastOfEach users), map_addUsers_eq_ok_iff,
    map_addUsers_eq_ok_iff, foldl_putUser_lastOfEach]
  refine and_congr_left fun _ => ⟨fun h u hu => h u ((User.lastOfEach_sublist users).subset hu), fun h u hu => ?_⟩
  obtain ⟨v, hv, hslot⟩ := exists_mem_lastOfEach hu
  exact (userFault?_of_slot_eq hslot).trans (h v hv)

/-! ### Who is there then -/

/-- Users have joined an engine: they are stored, nobody who was there before is gone or replaced, and they
are counted. -/
structure Joined (e : MemoryEngine) (users : List User) (e' : MemoryEngine) : Prop where
  stored : ∀ u ∈ users, (e'.usersOf u.inboundTag)[u.email]? = some u
  kept (tag email : String) (u : User) :
    (e.usersOf tag)[email]? = some u → (e'.usersOf tag)[email]? = some u
  count : e'.userCount = e.userCount + users.length

/-- A user that may be added is one more. -/
lemma userCount_putUser (h : e.userFault? u = none) : (e.putUser u).userCount = e.userCount + 1 := by
  obtain ⟨-, hfree⟩ := userFault?_eq_none_iff.1 h
  let tags := (e.putUser u).users.keys.toFinset
  have hafter : ∀ tag ∈ (e.putUser u).users, tag ∈ tags := fun tag htag =>
    List.mem_toFinset.2 (Std.ExtTreeMap.mem_keys.2 htag)
  have hbefore : ∀ tag ∈ e.users, tag ∈ tags := fun tag htag =>
    hafter tag (Std.ExtTreeMap.mem_insert.2 (.inr htag))
  have hu : u.inboundTag ∈ tags := hafter _ Std.ExtTreeMap.mem_insert_self
  have hsize (tag : String) : ((e.putUser u).usersOf tag).size =
      (e.usersOf tag).size + if u.inboundTag = tag then 1 else 0 := by
    rw [usersOf_putUser]
    split_ifs with htag
    · subst htag
      rw [Std.ExtTreeMap.size_insert, if_neg (mt Std.ExtTreeMap.contains_iff_mem.1 hfree)]
    · rfl
  rw [userCount_eq_sum hafter, userCount_eq_sum hbefore, Finset.sum_congr rfl fun tag _ => hsize tag,
    Finset.sum_add_distrib, Finset.sum_ite_eq, if_pos hu]

/-- A user who can be added joins. -/
lemma joined_putUser (h : e.userFault? u = none) : e.Joined [u] (e.putUser u) where
  stored v hv := by
    obtain rfl := List.mem_singleton.1 hv
    rw [getElem?_usersOf_putUser]
    exact if_pos rfl
  kept tag email v hv := by
    obtain ⟨-, hfree⟩ := userFault?_eq_none_iff.1 h
    have hslot : u.slot ≠ (tag, email) := by
      intro hslot
      obtain ⟨rfl, rfl⟩ := Prod.mk.inj hslot
      rw [Std.ExtTreeMap.getElem?_eq_none hfree] at hv
      cases hv
    rw [getElem?_usersOf_putUser, if_neg hslot]
    exact hv
  count := userCount_putUser h

lemma joined_nil (e : MemoryEngine) : e.Joined [] e := ⟨nofun, fun _ _ _ hu => hu, rfl⟩

lemma Joined.cons {e₁ : MemoryEngine} (h : e.Joined [u] e₁) (h' : e₁.Joined users e') :
    e.Joined (u :: users) e' where
  stored v hv := by
    rcases List.mem_cons.1 hv with rfl | hv
    · exact h'.kept _ _ _ (h.stored v List.mem_cons_self)
    · exact h'.stored v hv
  kept tag email v hv := h'.kept tag email v (h.kept tag email v hv)
  count := by
    rw [h'.count, h.count]
    exact Nat.add_right_comm _ _ _

/-- Users who are added one by one join. -/
lemma joined_of_addEach (h : e.addEach users = .ok e') : e.Joined users e' := by
  induction users generalizing e with
  | nil =>
    obtain rfl := Except.ok.inj h
    exact joined_nil e
  | cons u users ih =>
    cases hfault : e.userFault? u with
    | some fault =>
      rw [addEach_cons_of_fault hfault] at h
      cases h
    | none =>
      rw [addEach_cons_of_none hfault] at h
      exact (joined_putUser hfault).cons (ih h)

/-- To add a list of users comes to the same as to add them one by one, once the list is cut down to the last
one of each inbound and email: it succeeds in the same cases and leaves the same engine, where these users
have joined and nobody who was there before is replaced, and it changes nothing if it fails.  A list with one
user at most for each inbound and email is not cut down, and it fails for the same reason.  Any other list is
cut down; one by one it would have been refused. -/
theorem addUsers_eq_addEach (e : MemoryEngine) (users : List User) :
    (∀ e', (e.addUsers users).map id = .ok e' ↔ e.addEach (User.lastOfEach users) = .ok e') ∧
    (∀ e', (e.addUsers users).map id = .ok e' → e.Joined (User.lastOfEach users) e') ∧
    (∀ fault, (e.addUsers users).fault? = some fault → (e.addUsers users).state = e) ∧
    ((users.map User.slot).Nodup →
      User.lastOfEach users = users ∧ (e.addUsers users).map id = e.addEach users) ∧
    (¬ (users.map User.slot).Nodup →
      (User.lastOfEach users).length < users.length ∧ ∃ fault, e.addEach users = .error fault) := by
  have hnodup : (users.map User.slot).Nodup ↔ users.Pairwise fun u v => u.slot ≠ v.slot := List.pairwise_map
  refine ⟨fun e' => map_addUsers_eq_ok_iff_addEach, fun e' h => ?_, fun fault h => ?_, fun h => ?_, fun h => ?_⟩
  · exact joined_of_addEach (map_addUsers_eq_ok_iff_addEach.1 h)
  · rw [addUsers] at h ⊢
    cases hfault : users.findSome? e.userFault? with
    | some fault' => rfl
    | none =>
      rw [hfault] at h
      cases h
  · exact ⟨User.lastOfEach_eq_self_iff.2 (hnodup.1 h), map_addUsers_eq_addEach (hnodup.1 h)⟩
  · have hcut : User.lastOfEach users ≠ users := mt User.lastOfEach_eq_self_iff.1 (mt hnodup.2 h)
    refine ⟨lt_of_le_of_ne (User.lastOfEach_sublist users).length_le fun hlength => ?_, ?_⟩
    · exact hcut ((User.lastOfEach_sublist users).eq_of_length hlength)
    · cases hone : e.addEach users with
      | error fault => exact ⟨fault, rfl⟩
      | ok e' => exact absurd (hnodup.2 (pairwise_of_addEach hone)) h

/-- Two users of one inbound and email are added together, and the second one takes the place of the first
one.  One by one the second one is refused. -/
theorem replaced_user_of_addUsers :
    let e : MemoryEngine := (empty.addInbound ⟨"in", "vless", 443, .null⟩).state
    let users : List User := [⟨"a@x", "vless", "in", .null⟩, ⟨"a@x", "vmess", "in", .null⟩]
    (e.addUsers users).fault? = none ∧ (e.addUsers users).state.userCount = 1 ∧
      (e.addUsers users).state.getUsers "in" = .ok [⟨"a@x", "vmess", "in", .null⟩] ∧
      e.addEach users = .error (.userExists "a@x") := by
  decide +kernel

end MemoryEngine

end Flotilla
