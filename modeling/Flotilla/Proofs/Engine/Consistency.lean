import Mathlib
import Flotilla.Proofs.Engine.Events

/-!
# Inbounds and their users

An engine keeps its inbounds in one table and their users in another one, where an inbound gets its place
with its first users.  Whatever happens to an engine, the two tables fit together: users belong to an
inbound that is there, an inbound that is added has none yet, and what is counted is what is listed.
-/

namespace Flotilla

open Std.LawfulEqCmp (eq_of_compare)

/-- The names in a table ascend. -/
lemma Table.pairwise_keys {α : Type} (t : Table α) : t.keys.Pairwise (· < ·) := by
  refine List.Pairwise.imp ?_ Std.ExtTreeMap.ordered_keys
  intro a b h
  exact compareOfLessAndEq_eq_lt.1 h

namespace MemoryEngine

variable {e e' : MemoryEngine} {tag : String}

/-! ### Tables that fit together -/

/-- Inbounds and users are stored where they belong: users under an inbound that is there, each inbound
under its tag and each user under its inbound and email; and no two inbounds have the same port. -/
structure Consistent (e : MemoryEngine) : Prop where
  mem_inbounds : ∀ tag ∈ e.users, tag ∈ e.inbounds
  tag_eq (tag : String) (i : Inbound) : e.inbounds[tag]? = some i → i.tag = tag
  tag_unique (tag tag' : String) (i i' : Inbound) : e.inbounds[tag]? = some i →
    e.inbounds[tag']? = some i' → i.port = i'.port → tag = tag'
  user_eq (tag : String) (users : Table User) (email : String) (u : User) :
    e.users[tag]? = some users → users[email]? = some u → u.inboundTag = tag ∧ u.email = email

lemma consistent_empty : empty.Consistent where
  mem_inbounds tag h := by simp [empty] at h
  tag_eq tag i h := by simp [empty] at h
  tag_unique tag tag' i i' h := by simp [empty] at h
  user_eq tag users email u h := by simp [empty] at h

lemma usersOf_eq (e : MemoryEngine) (tag : String) : e.usersOf tag = e.users[tag]?.getD ∅ :=
  Std.ExtTreeMap.getD_eq_getD_getElem?

/-- All inbounds can be asked for their users. -/
lemma mapM_getUsers (e : MemoryEngine) :
    e.inbounds.keys.mapM e.getUsers = .ok (e.inbounds.keys.map fun tag => (e.usersOf tag).values) := by
  have hkeys : ∀ tag ∈ e.inbounds.keys, e.getUsers tag = .ok (e.usersOf tag).values := fun tag htag =>
    getUsers_eq_ok_iff.2 ⟨Std.ExtTreeMap.mem_keys.1 htag, rfl⟩
  generalize e.inbounds.keys = tags at hkeys
  induction tags with
  | nil => rfl
  | cons tag tags ih =>
    rw [List.mapM_cons, hkeys tag List.mem_cons_self, ih fun t ht => hkeys t (List.mem_cons_of_mem _ ht)]
    rfl

/-- Who is left was there before. -/
lemma getElem?_of_foldl_erase {emails : List String} {users : Table User} {email : String} {u : User}
    (h : (emails.foldl (·.erase ·) users)[email]? = some u) : users[email]? = some u := by
  induction emails generalizing users with
  | nil => exact h
  | cons gone emails ih =>
    have hleft : (users.erase gone)[email]? = some u := ih h
    rw [Std.ExtTreeMap.getElem?_erase] at hleft
    split_ifs at hleft
    exact hleft

/-- All users are counted by the inbounds that have some. -/
lemma userCount_eq_sum {tags : Finset String} (h : ∀ tag ∈ e.users, tag ∈ tags) :
    e.userCount = ∑ tag ∈ tags, (e.usersOf tag).size := by
  have hcount : e.userCount = (e.users.keys.map fun tag => (e.usersOf tag).size).sum := by
    have hsizes : e.users.values.map (·.size) = e.users.keys.map fun tag => (e.usersOf tag).size :=
      Table.map_values_eq_map_keys fun tag users hget => by rw [usersOf_eq, hget]; rfl
    rw [← hsizes, List.sum_eq_foldl, List.foldl_map]
    rfl
  rw [hcount, ← List.sum_toFinset _ Std.ExtTreeMap.nodup_keys]
  apply Finset.sum_subset
  · intro tag htag
    rw [List.mem_toFinset, Std.ExtTreeMap.mem_keys] at htag
    exact h tag htag
  · intro tag _ htag
    rw [List.mem_toFinset, Std.ExtTreeMap.mem_keys] at htag
    have hnone : e.users[tag]? = none := Std.ExtTreeMap.getElem?_eq_none htag
    rw [usersOf_eq, hnone]
    rfl

namespace Consistent

variable (h : e.Consistent)

include h

/-- Only the inbounds and the users matter. -/
lemma of_eq (hinbounds : e'.inbounds = e.inbounds) (husers : e'.users = e.users) : e'.Consistent := by
  obtain ⟨hmem, htag, hunique, huser⟩ := h
  rw [← hinbounds] at hmem htag hunique
  rw [← husers] at hmem huser
  exact ⟨hmem, htag, hunique, huser⟩

/-- A user is stored under the inbound and the email that it names. -/
lemma user_eq_of_usersOf {email : String} {u : User} (hu : (e.usersOf tag)[email]? = some u) :
    u.inboundTag = tag ∧ u.email = email := by
  rw [usersOf_eq] at hu
  cases hget : e.users[tag]? with
  | none => simp [hget] at hu
  | some users =>
    rw [hget] at hu
    exact h.user_eq tag users email u hget hu

/-- A tag without an inbound has no users. -/
lemma usersOf_eq_empty (htag : tag ∉ e.inbounds) : e.usersOf tag = ∅ := by
  have hnone : e.users[tag]? = none :=
    Std.ExtTreeMap.getElem?_eq_none (mt (h.mem_inbounds tag) htag)
  rw [usersOf_eq, hnone]
  rfl

/-- An inbound on a free port may be opened. -/
lemma opened {i : Inbound} (hport : ∀ other ∈ e.inbounds.values, other.port ≠ i.port)
    (hinbounds : e'.inbounds = e.inbounds.insert i.tag i) (husers : e'.users = e.users) :
    e'.Consistent := by
  have hother (tag : String) (other : Inbound) (hget : e.inbounds[tag]? = some other) :
      other.port ≠ i.port := hport other (Table.mem_values.2 ⟨tag, hget⟩)
  refine ⟨?_, ?_, ?_, by rw [husers]; exact h.user_eq⟩
  · intro tag hmem
    rw [husers] at hmem
    rw [hinbounds, Std.ExtTreeMap.mem_insert]
    exact .inr (h.mem_inbounds tag hmem)
  · intro tag j hget
    rw [hinbounds, Std.ExtTreeMap.getElem?_insert] at hget
    split_ifs at hget with hkey
    · cases hget
      exact eq_of_compare hkey
    · exact h.tag_eq tag j hget
  · intro tag tag' j j' hget hget' hsame
    rw [hinbounds, Std.ExtTreeMap.getElem?_insert] at hget hget'
    -- a port that is in use is not the new one
    split_ifs at hget hget' with hkey hkey' hkey'
    · exact (eq_of_compare hkey).symm.trans (eq_of_compare hkey')
    · cases hget
      exact absurd hsame.symm (hother tag' j' hget')
    · cases hget'
      exact absurd hsame (hother tag j hget)
    · exact h.tag_unique tag tag' j j' hget hget' hsame

/-- An inbound takes its users along when it is closed. -/
lemma closed (hinbounds : e'.inbounds = e.inbounds.erase tag) (husers : e'.users = e.users.erase tag) :
    e'.Consistent := by
  have hinbound (other : String) (i : Inbound) (hget : e'.inbounds[other]? = some i) :
      e.inbounds[other]? = some i := by
    rw [hinbounds, Std.ExtTreeMap.getElem?_erase] at hget
    split_ifs at hget
    exact hget
  refine ⟨?_, fun other i hget => h.tag_eq other i (hinbound other i hget), ?_, ?_⟩
  · intro other hmem
    rw [husers, Std.ExtTreeMap.mem_erase] at hmem
    rw [hinbounds, Std.ExtTreeMap.mem_erase]
    exact ⟨hmem.1, h.mem_inbounds other hmem.2⟩
  · intro tag tag' i i' hget hget'
    exact h.tag_unique tag tag' i i' (hinbound tag i hget) (hinbound tag' i' hget')
  · intro other users email u hget
    rw [husers, Std.ExtTreeMap.getElem?_erase] at hget
    split_ifs at hget
    exact h.user_eq other users email u hget

lemma putUser {u : User} (htag : u.inboundTag ∈ e.inbounds) : (e.putUser u).Consistent := by
  refine ⟨?_, h.tag_eq, h.tag_unique, ?_⟩
  · intro tag hmem
    rcases Std.ExtTreeMap.mem_insert.1 hmem with hkey | hmem
    · exact eq_of_compare hkey ▸ htag
    · exact h.mem_inbounds tag hmem
  · intro tag users email v hget hv
    rw [MemoryEngine.putUser, Std.ExtTreeMap.getElem?_insert] at hget
    split_ifs at hget with hkey
    · obtain rfl := eq_of_compare hkey
      cases hget
      rw [Std.ExtTreeMap.getElem?_insert] at hv
      split_ifs at hv with hemail
      · cases hv
        exact ⟨rfl, eq_of_compare hemail⟩
      · exact h.user_eq_of_usersOf hv
    · exact h.user_eq tag users email v hget hv

lemma joined {users : List User} (hfree : ∀ u ∈ users, u.inboundTag ∈ e.inbounds) :
    (users.foldl MemoryEngine.putUser e).Consistent := by
  induction users generalizing e with
  | nil => exact h
  | cons u users ih =>
    have htag : u.inboundTag ∈ e.inbounds := hfree u List.mem_cons_self
    exact ih (h.putUser htag) fun v hv => hfree v (List.mem_cons_of_mem _ hv)

lemma left {emails : List String} {users : Table User} (hold : e.users[tag]? = some users)
    (hinbounds : e'.inbounds = e.inbounds)
    (husers : e'.users = e.users.insert tag (emails.foldl (·.erase ·) users)) : e'.Consistent := by
  refine ⟨?_, ?_, ?_, ?_⟩
  · intro other hmem
    rw [husers, Std.ExtTreeMap.mem_insert] at hmem
    rw [hinbounds]
    rcases hmem with hkey | hmem
    · obtain rfl := eq_of_compare hkey
      exact h.mem_inbounds tag (Std.ExtTreeMap.mem_iff_isSome_getElem?.2 (by simp [hold]))
    · exact h.mem_inbounds other hmem
  · rw [hinbounds]
    exact h.tag_eq
  · rw [hinbounds]
    exact h.tag_unique
  · intro other others email u hget hu
    rw [husers, Std.ExtTreeMap.getElem?_insert] at hget
    split_ifs at hget with hkey
    · obtain rfl := eq_of_compare hkey
      cases hget
      exact h.user_eq tag users email u hold (getElem?_of_foldl_erase hu)
    · exact h.user_eq other others email u hget hu

/-- No operation makes an engine inconsistent. -/
lemma of_change (hchange : e.Change e') : e'.Consistent := by
  cases hchange with
  | kept hinbounds husers => exact h.of_eq hinbounds husers
  | opened i htag hport hinbounds husers => exact h.opened hport hinbounds husers
  | closed tag hinbounds husers => exact h.closed hinbounds husers
  | joined users hfree hputs =>
    subst hputs
    exact h.joined fun u hu => (hfree u hu).1
  | left tag emails users hold hinbounds husers => exact h.left hold hinbounds husers

/-- An engine stays consistent in every run. -/
lemma run (es : List Event) : (e.run es).Consistent := by
  induction es generalizing e with
  | nil => exact h
  | cons event es ih => exact ih (h.of_change (e.settled_step event).change)

/-! ### What is listed and counted -/

/-- The users of an inbound are listed in the order of their emails, each of them once. -/
lemma pairwise_email (tag : String) : ((e.usersOf tag).values.map (·.email)).Pairwise (· < ·) := by
  have hemails : (e.usersOf tag).values.map (·.email) = (e.usersOf tag).keys.map id :=
    Table.map_values_eq_map_keys fun email u hu => (h.user_eq_of_usersOf hu).2
  rw [hemails, List.map_id]
  exact Table.pairwise_keys _

/-- The users of all inbounds are all users. -/
lemma userCount_eq : e.userCount = (e.inbounds.keys.map fun tag => (e.usersOf tag).size).sum := by
  have hmem : ∀ tag ∈ e.users, tag ∈ e.inbounds.keys.toFinset := by
    intro tag htag
    rw [List.mem_toFinset, Std.ExtTreeMap.mem_keys]
    exact h.mem_inbounds tag htag
  rw [userCount_eq_sum hmem, List.sum_toFinset _ Std.ExtTreeMap.nodup_keys]

/-- An inbound that is added has no users yet. -/
lemma getUsers_of_addInbound {i : Inbound} (hok : (e.addInbound i).fault? = none) :
    (e.addInbound i).state.getUsers i.tag = .ok [] := by
  rcases e.addInbound_cases i with ⟨fault, heffect⟩ | ⟨htag, -, heffect⟩
  · rw [heffect] at hok
    cases hok
  · rw [heffect, Effect.done]
    refine getUsers_eq_ok_iff.2 ⟨Std.ExtTreeMap.mem_insert_self, ?_⟩
    have hempty : ({ e with inbounds := e.inbounds.insert i.tag i } : MemoryEngine).usersOf i.tag = ∅ :=
      h.usersOf_eq_empty htag
    rw [hempty]
    rfl

end Consistent

/-- Whatever an engine was asked for, its tables fit together; the users of its inbounds can be listed, each
list in the order of the emails and without repetition, and together they are as many as are counted; a call
that fails changes nothing; and an inbound that is added has no users, whether or not there was one of its
tag before. -/
theorem consistent_run (es : List Event) :
    let e := empty.run es
    e.Consistent ∧
      (∃ listings, e.inbounds.keys.mapM e.getUsers = .ok listings ∧
        e.userCount = (listings.map (·.length)).sum ∧
        ∀ listing ∈ listings, (listing.map (·.email)).Pairwise (· < ·)) ∧
      (∀ event fault, (e.step event).2 = .error fault → (e.step event).1 = e) ∧
      ∀ i now outcome, (e.step (.task (.addInbound i) now)).2 = .ok outcome →
        (e.step (.task (.addInbound i) now)).1.getUsers i.tag = .ok [] := by
  intro e
  have h : e.Consistent := consistent_empty.run es
  refine ⟨h, ⟨_, mapM_getUsers e, ?_, ?_⟩, fun event fault => (e.settled_step event).eq_of_error, ?_⟩
  · rw [List.map_map, h.userCount_eq]
    simp only [Function.comp_def, Table.length_values]
  · intro listing hmem
    obtain ⟨tag, -, rfl⟩ := List.mem_map.1 hmem
    exact h.pairwise_email tag
  · intro i now outcome hok
    rw [step, run_addInbound] at hok
    obtain ⟨hfault, -⟩ := Effect.giving_eq_ok_iff.1 hok
    exact h.getUsers_of_addInbound hfault

/-- An inbound with two users is deleted, and one of its tag is added on another port. -/
theorem consistent_run_reopened :
    let i : Inbound := ⟨"in", "vless", 443, .null⟩
    let es : List Event :=
      [.task (.addInbound i) 0,
        .task (.addUsers [⟨"b@x", "vless", "in", .null⟩, ⟨"a@x", "vless", "in", .null⟩]) 1,
        .task (.deleteInbound "in") 2]
    let e := empty.run es
    let j : Inbound := { i with port := 8443 }
    (empty.run (es.take 2)).userCount = 2 ∧
      (e.step (.task (.addInbound j) 3)).2 = .ok .done ∧
      (e.step (.task (.addInbound j) 3)).1.getUsers "in" = .ok [] := by
  intro i es e j
  have hok : (e.step (.task (.addInbound j) 3)).2 = .ok .done := by decide +kernel
  exact ⟨by decide +kernel, hok, (consistent_run es).2.2.2 j 3 .done hok⟩

end MemoryEngine

end Flotilla
