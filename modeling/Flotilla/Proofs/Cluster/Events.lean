import Flotilla.Contact
import Flotilla.Proofs.Cluster.Records

/-!
# Histories of a cluster

Everything that touches the records of a cluster is an event: requests of other nodes, evictions, peers
learned from others, outcomes of contacts, and direct edits.  A history lists events with what came out
of them.  `Change` says for each event what becomes of the record under a name; invariants of runs are
proved by cases on it.
-/

namespace Flotilla

open Rpc (CallError)

/-- The record of a peer after the outcome of a contact with it. -/
def Contact.settled (outcome : Except CallError News) (now : Instant) : Node → Node :=
  match outcome with
  | .ok news => succeeded news now
  | .error _ => failed now

namespace Contact

variable (outcome : Except CallError News) (now : Instant) (node : Node)

@[simp] lemma identity_settled : (settled outcome now node).identity = node.identity := by
  cases outcome <;> rfl

@[simp] lemma inToken_settled : (settled outcome now node).inToken = node.inToken := by
  cases outcome <;> rfl

@[simp] lemma heardAt_settled : (settled outcome now node).heardAt = node.heardAt := by
  cases outcome <;> rfl

@[simp] lemma createdAt_settled : (settled outcome now node).createdAt = node.createdAt := by
  cases outcome <;> rfl

@[simp] lemma isLocal_settled : (settled outcome now node).isLocal = node.isLocal := by
  cases outcome <;> rfl

end Contact

namespace Cluster

/-! ### Events -/

/-- What may happen to a cluster.  A token that may have to be issued comes with the event. -/
inductive Event where
  | register (claimed : Identity) (token server fresh : String) (now : Instant)
  | authenticate (claimed : Identity) (token : String) (now : Instant)
  | heartbeat (claimed : Identity) (token : String) (now : Instant)
  /-- A node fails to prove that it belongs to the cluster. -/
  | isolate (who : Identity) (now : Instant)
  | evict (now : Instant)
  /-- Somebody lists a peer. -/
  | learn (peer : Identity) (now : Instant)
  /-- A contact with a peer comes to its end. -/
  | settle (name : String) (outcome : Except CallError News) (now : Instant)
  | store (key : String) (node : Node)
  | erase (key : String)
  | replace (key : String) (f : Node → Node)

/-- Direct edits store records without tokens only. -/
def Event.IsPlain : Event → Prop
  | .store _ node => ∃ who now, node = .new who now ∨ node = .fixed who now
  | .replace _ _ => False
  | _ => True

/-- When an event happens; direct edits do not look at the clock. -/
def Event.time? : Event → Option Instant
  | .register _ _ _ _ now => some now
  | .authenticate _ _ now => some now
  | .heartbeat _ _ now => some now
  | .isolate _ now => some now
  | .evict now => some now
  | .learn _ now => some now
  | .settle _ _ now => some now
  | .store _ _ => none
  | .erase _ => none
  | .replace _ _ => none

inductive Outcome where
  | registration (result : Except RegisterError Registration)
  | authentication (result : Except AuthError Node)
  | heartbeat (result : Except HeartbeatError (List Identity))
  | eviction (dropped : List String)
  | done

/-- The cluster after an event, and what comes out of it. -/
def step (c : Cluster) : Event → Cluster × Outcome
  | .register claimed token server fresh now =>
    let (c, result) := c.register claimed token server fresh now
    (c, .registration result)
  | .authenticate claimed token now =>
    let (c, result) := c.authenticate claimed token now
    (c, .authentication result)
  | .heartbeat claimed token now =>
    let (c, result) := c.heartbeat claimed token now
    (c, .heartbeat result)
  | .isolate who now => (c.isolate who now, .done)
  | .evict now =>
    let (c, dropped) := c.evictStale now
    (c, .eviction dropped)
  | .learn peer now =>
    ({ c with nodes := c.nodes.insertIfAbsent peer.name (.new peer now) }, .done)
  | .settle name outcome now =>
    ({ c with nodes := c.nodes.update name (Contact.settled outcome now) }, .done)
  | .store key node => ({ c with nodes := c.nodes.insert key node }, .done)
  | .erase key => ({ c with nodes := c.nodes.erase key }, .done)
  | .replace key f => ({ c with nodes := c.nodes.update key f }, .done)

def run (c : Cluster) (es : List Event) : Cluster := es.foldl (fun c e => (c.step e).1) c

/-- An event and what came out of it. -/
abbrev Entry := Event × Outcome

/-- Some events and what comes out of them, one after the other. -/
def history (c : Cluster) : List Event → List Entry
  | [] => []
  | e :: es => (e, (c.step e).2) :: history (c.step e).1 es

@[simp] lemma run_nil (c : Cluster) : c.run [] = c := rfl

@[simp] lemma run_cons (c : Cluster) (e : Event) (es : List Event) :
    c.run (e :: es) = (c.step e).1.run es := rfl

/-- A run may be cut anywhere. -/
lemma run_append (c : Cluster) (es es' : List Event) : c.run (es ++ es') = (c.run es).run es' := by
  simp [run]

@[simp] lemma history_nil (c : Cluster) : c.history [] = [] := rfl

@[simp] lemma history_cons (c : Cluster) (e : Event) (es : List Event) :
    c.history (e :: es) = (e, (c.step e).2) :: (c.step e).1.history es := rfl

lemma history_append (c : Cluster) (es es' : List Event) :
    c.history (es ++ es') = c.history es ++ (c.run es).history es' := by
  induction es generalizing c with
  | nil => rfl
  | cons e es ih => simp [ih]

/-- No event renames the cluster. -/
@[simp] lemma name_step (c : Cluster) (e : Event) : (c.step e).1.name = c.name := by
  cases e <;> simp [step, isolate, evictStale]

/-- No event changes the token of the cluster. -/
@[simp] lemma token_step (c : Cluster) (e : Event) : (c.step e).1.token = c.token := by
  cases e <;> simp [step, isolate, evictStale]

@[simp] lemma name_run (c : Cluster) (es : List Event) : (c.run es).name = c.name := by
  induction es generalizing c with
  | nil => rfl
  | cons e es ih => rw [run_cons, ih, name_step]

@[simp] lemma token_run (c : Cluster) (es : List Event) : (c.run es).token = c.token := by
  induction es generalizing c with
  | nil => rfl
  | cons e es ih => rw [run_cons, ih, token_step]

/-! ### What entries say about a name -/

/-- The token that an entry shows a name to have been given. -/
def issued? (name : String) : Entry → Option String
  | (.register claimed _ _ _ _, .registration (.ok r)) =>
    if claimed.name = name then some r.token else none
  | _ => none

/-- When an entry shows that the node with a name proved itself. -/
def proof? (name : String) : Entry → Option Instant
  | (.register claimed _ _ _ now, .registration (.ok _)) =>
    if claimed.name = name then some now else none
  | (.authenticate claimed _ now, .authentication (.ok _)) =>
    if claimed.name = name then some now else none
  | (.heartbeat claimed _ now, .heartbeat (.ok _)) => if claimed.name = name then some now else none
  | _ => none

/-- An entry takes the record under a name away, or puts another one in its place. -/
def Removes (name : String) : Entry → Prop
  | (.evict _, .eviction dropped) => name ∈ dropped
  | (.store key _, _) => key = name
  | (.erase key, _) => key = name
  | (.replace key _, _) => key = name
  | _ => False

/-! ### What events do to a record -/

/-- What an entry makes of the record that `c` holds under a name. -/
inductive Change (c : Cluster) (name : String) : Entry → Option Node → Prop where
  | admitted {claimed : Identity} {token server fresh : String} {now : Instant} {r : Registration}
      (hname : claimed.name = name) (h : (c.register claimed token server fresh now).2 = .ok r) :
      Change c name (.register claimed token server fresh now, .registration (.ok r))
        (some (Cluster.admitted (c.nodes.get? name) claimed r.token now))
  | authenticated {claimed : Identity} {token : String} {now : Instant} {node : Node}
      (hname : claimed.name = name) (hget : c.nodes.get? name = some node)
      (hf : credentialFault? node claimed token now = none) :
      Change c name (.authenticate claimed token now, .authentication (.ok (heard now node)))
        (some (heard now node))
  | greeted {claimed : Identity} {token : String} {now : Instant} {node : Node} {peers : List Identity}
      (hname : claimed.name = name) (hget : c.nodes.get? name = some node)
      (hf : credentialFault? node claimed token now = none) :
      Change c name (.heartbeat claimed token now, .heartbeat (.ok peers)) (some (heard now node))
  | dropped {now : Instant} {names : List String} {node : Node} (hmem : name ∈ names)
      (hget : c.nodes.get? name = some node) (hstale : node.survivesAt now = false) :
      Change c name (.evict now, .eviction names) none
  | learned {peer : Identity} {now : Instant} (hname : peer.name = name)
      (hget : c.nodes.get? name = none) : Change c name (.learn peer now, .done) (some (.new peer now))
  | settled (outcome : Except CallError News) (now : Instant) :
      Change c name (.settle name outcome now, .done)
        ((c.nodes.get? name).map (Contact.settled outcome now))
  | stored (node : Node) : Change c name (.store name node, .done) (some node)
  | erased : Change c name (.erase name, .done) none
  | replaced (f : Node → Node) :
      Change c name (.replace name f, .done) ((c.nodes.get? name).map f)
  | kept {entry : Entry} (hissued : issued? name entry = none) (hproof : proof? name entry = none)
      (hstays : ¬ Removes name entry) : Change c name entry (c.nodes.get? name)

variable (c : Cluster) (name : String)

/-- What a registration makes of the record under a name. -/
lemma change_register (claimed : Identity) (token server fresh : String) (now : Instant) :
    Change c name (.register claimed token server fresh now,
        .registration (c.register claimed token server fresh now).2)
      ((c.register claimed token server fresh now).1.nodes.get? name) := by
  cases h : (c.register claimed token server fresh now).2 with
  | error e =>
    rw [get?_register_of_error h]
    exact .kept rfl rfl id
  | ok r =>
    rw [get?_register_of_ok h]
    split_ifs with hname
    · rw [hname]
      exact .admitted hname h
    · exact .kept (by simp [issued?, hname]) (by simp [proof?, hname]) id

lemma change_authenticate (claimed : Identity) (token : String) (now : Instant) :
    Change c name (.authenticate claimed token now,
        .authentication (c.authenticate claimed token now).2)
      ((c.authenticate claimed token now).1.nodes.get? name) := by
  cases h : (c.authenticate claimed token now).2 with
  | error e =>
    rw [get?_authenticate_of_error h]
    exact .kept rfl rfl id
  | ok n =>
    rw [get?_authenticate_of_ok h]
    obtain ⟨node, hget, hf, rfl⟩ := authenticate_eq_ok_iff.1 h
    split_ifs with hname
    · exact .authenticated hname (hname ▸ hget) hf
    · exact .kept rfl (by simp [proof?, hname]) id

lemma change_heartbeat (claimed : Identity) (token : String) (now : Instant) :
    Change c name (.heartbeat claimed token now, .heartbeat (c.heartbeat claimed token now).2)
      ((c.heartbeat claimed token now).1.nodes.get? name) := by
  rw [heartbeat_fst]
  cases h : (c.heartbeat claimed token now).2 with
  | error e =>
    have hauth : ∀ n, (c.authenticate claimed token now).2 ≠ .ok n := by
      intro n hn
      obtain ⟨peers, hpeers⟩ := exists_heartbeat_eq_ok_iff.2 ⟨n, hn⟩
      rw [h] at hpeers
      cases hpeers
    cases hn : (c.authenticate claimed token now).2 with
    | ok n => exact absurd hn (hauth n)
    | error e =>
      rw [get?_authenticate_of_error hn]
      exact .kept rfl rfl id
  | ok peers =>
    obtain ⟨n, hn⟩ := exists_heartbeat_eq_ok_iff.1 ⟨peers, h⟩
    rw [get?_authenticate_of_ok hn]
    obtain ⟨node, hget, hf, rfl⟩ := authenticate_eq_ok_iff.1 hn
    split_ifs with hname
    · exact .greeted hname (hname ▸ hget) hf
    · exact .kept rfl (by simp [proof?, hname]) id

lemma change_evict (now : Instant) :
    Change c name (.evict now, .eviction (c.evictStale now).2)
      ((c.evictStale now).1.nodes.get? name) := by
  rw [nodes_evictStale, Roster.get?_filter]
  by_cases hmem : name ∈ (c.evictStale now).2
  · obtain ⟨node, hget, hstale⟩ := mem_evictStale.1 hmem
    have hnone : Option.filter (·.survivesAt now) (some node) = none := by simp [hstale]
    rw [hget, hnone]
    exact .dropped hmem hget hstale
  · have hkept : (c.nodes.get? name).filter (·.survivesAt now) = c.nodes.get? name := by
      cases hget : c.nodes.get? name with
      | none => rfl
      | some node =>
        have hlive : node.survivesAt now = true := by
          by_contra hstale
          exact hmem (mem_evictStale.2 ⟨node, hget, by simpa using hstale⟩)
        simp [hlive]
    rw [hkept]
    exact .kept rfl rfl hmem

/-- Every event changes the record under a name in one of the ways that `Change` lists. -/
theorem change_step (e : Event) :
    Change c name (e, (c.step e).2) ((c.step e).1.nodes.get? name) := by
  cases e with
  | register claimed token server fresh now => exact change_register c name claimed token server fresh now
  | authenticate claimed token now => exact change_authenticate c name claimed token now
  | heartbeat claimed token now => exact change_heartbeat c name claimed token now
  | isolate who now => exact .kept rfl rfl id
  | evict now => exact change_evict c name now
  | learn peer now =>
    simp only [step, Roster.get?_insertIfAbsent]
    split_ifs with hname
    · cases hget : c.nodes.get? name with
      | none => exact .learned hname hget
      | some node =>
        rw [Option.getD_some, ← hget]
        exact .kept rfl rfl id
    · exact .kept rfl rfl id
  | settle key outcome now =>
    simp only [step, Roster.get?_update]
    split_ifs with hkey
    · subst hkey
      exact .settled outcome now
    · exact .kept rfl rfl id
  | store key node =>
    simp only [step, Roster.get?_insert]
    split_ifs with hkey
    · subst hkey
      exact .stored node
    · exact .kept rfl rfl hkey
  | erase key =>
    simp only [step, Roster.get?_erase]
    split_ifs with hkey
    · subst hkey
      exact .erased
    · exact .kept rfl rfl hkey
  | replace key f =>
    simp only [step, Roster.get?_update]
    split_ifs with hkey
    · subst hkey
      exact .replaced f
    · exact .kept rfl rfl hkey

/-- Where a record with a token comes from: a registration was answered with the token, or the record was
there before and only its last signal may be new. -/
lemma Change.admitted_or_known {c : Cluster} {name : String} {entry : Entry} {node : Node}
    (h : Change c name entry (some node)) (hplain : entry.1.IsPlain) (htoken : node.inToken ≠ "") :
    (∃ claimed token server fresh now r,
      entry = (.register claimed token server fresh now, .registration (.ok r)) ∧
        claimed.name = name ∧ (c.register claimed token server fresh now).2 = .ok r ∧
        node = Cluster.admitted (c.nodes.get? name) claimed r.token now) ∨
      ∃ known, c.nodes.get? name = some known ∧ node.identity = known.identity ∧
        node.inToken = known.inToken ∧ node.heardAt = (proof? name entry).or known.heardAt ∧
        issued? name entry = none ∧ ¬ Removes name entry := by
  generalize hafter : some node = after at h
  cases h with
  | @admitted claimed token server fresh now r hname hr =>
    cases hafter
    exact .inl ⟨claimed, token, server, fresh, now, r, rfl, hname, hr, rfl⟩
  | @authenticated _ _ _ known hname hget hf =>
    cases hafter
    exact .inr ⟨known, hget, rfl, rfl, by simp [proof?, hname, heard], rfl, id⟩
  | @greeted _ _ _ known _ hname hget hf =>
    cases hafter
    exact .inr ⟨known, hget, rfl, rfl, by simp [proof?, hname, heard], rfl, id⟩
  | dropped => cases hafter
  | learned =>
    cases hafter
    exact absurd rfl htoken
  | settled outcome now =>
    obtain ⟨known, hget, rfl⟩ := Option.map_eq_some_iff.1 hafter.symm
    exact .inr ⟨known, hget, by simp, by simp, by simp [proof?], rfl, id⟩
  | stored =>
    cases hafter
    obtain ⟨who, now, rfl | rfl⟩ := hplain
    · exact absurd rfl htoken
    · exact absurd rfl htoken
  | erased => cases hafter
  | replaced => exact hplain.elim
  | kept hissued hproof hstays =>
    exact .inr ⟨node, hafter.symm, rfl, rfl, by simp [hproof], hissued, hstays⟩

end Cluster

end Flotilla
