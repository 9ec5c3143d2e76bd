import Mathlib.Tactic.Common
import Flotilla.Cluster.Registration

/-!
# What a cluster's operations do to its records

For each operation: when it succeeds, what it answers, and which record the roster holds afterwards
under each name.  Later modules work from these facts and do not open the operations.
-/

namespace Flotilla

/-- An entry of a list that has grown by one is the new one, or it was there before. -/
lemma append_cons_eq_snoc_iff {α : Type*} {before past after : List α} {entry last : α} :
    before ++ entry :: after = past ++ [last] ↔
      before = past ∧ entry = last ∧ after = [] ∨
        ∃ later, past = before ++ entry :: later ∧ after = later ++ [last] := by
  constructor
  · intro h
    rcases List.eq_nil_or_concat after with rfl | ⟨later, x, rfl⟩
    · obtain ⟨rfl, hentry⟩ := List.append_inj' h rfl
      exact .inl ⟨rfl, by simpa using hentry, rfl⟩
    · rw [List.concat_eq_append, ← List.cons_append, ← List.append_assoc] at h
      obtain ⟨rfl, hlast⟩ := List.append_inj' h rfl
      exact .inr ⟨later, rfl, by rw [List.concat_eq_append, hlast]⟩
  · rintro (⟨rfl, rfl, rfl⟩ | ⟨later, rfl, rfl⟩)
    · rfl
    · simp

/-- A list is read if each of its items is. -/
lemma mapM_eq_some_iff {α β : Type} {f : α → Option β} {l : List α} {bs : List β} :
    l.mapM f = some bs ↔ l.map f = bs.map some := by
  induction l generalizing bs with
  | nil => cases bs <;> simp
  | cons a l ih =>
    cases bs with
    | nil => simp [Option.bind_eq_some_iff]
    | cons b bs => simp [Option.bind_eq_some_iff, ← ih]

/-- A peer that was just taken up is valid for the length of a timeout. -/
lemma Node.isValidAt_new_iff {peer : Identity} {now t : Instant} :
    (Node.new peer now).isValidAt t = true ↔ t < now + (heartbeatTimeout : Int) := by
  have hvalid : (Node.new peer now).isValidAt t = now.isRecent t := by simp [isValidAt, new]
  rw [hvalid, Instant.isRecent, decide_eq_true_iff]
  exact ⟨Int.lt_add_of_sub_left_lt, Int.sub_left_lt_of_lt_add⟩

namespace Cluster

variable {c : Cluster} {claimed : Identity} {token : String} {now : Instant}

/-! ### Quarantine -/

@[simp] lemma nodes_isolate (c : Cluster) (who : Identity) (now : Instant) :
    (c.isolate who now).nodes = c.nodes := rfl

@[simp] lemma nodes_release (c : Cluster) (name : String) : (c.release name).nodes = c.nodes := rfl

/-! ### Authentication -/

/-- Nothing is learnt from a request under an unknown name. -/
lemma authenticate_of_none (h : c.nodes.get? claimed.name = none) :
    c.authenticate claimed token now = (c, .error (.nodeNotExist claimed.name)) := by
  simp [authenticate, Roster.modify?_eq_none_iff.2 h]

/-- A request that is refused changes no record; it puts the name into quarantine. -/
lemma authenticate_of_fault {node : Node} {e : AuthError} (h : c.nodes.get? claimed.name = some node)
    (hf : credentialFault? node claimed token now = some e) :
    c.authenticate claimed token now = ({ c with nodes := c.nodes.insert claimed.name node }, .error e) := by
  simp [authenticate, Roster.modify?_of_get? _ h, hf]

/-- A request that is accepted is a signal of the peer, and takes the name out of quarantine. -/
lemma authenticate_of_no_fault {node : Node} (h : c.nodes.get? claimed.name = some node)
    (hf : credentialFault? node claimed token now = none) :
    c.authenticate claimed token now =
      ({ c with nodes := c.nodes.insert claimed.name (heard now node) }.release claimed.name,
        .ok (heard now node)) := by
  simp [authenticate, Roster.modify?_of_get? _ h, hf]

/-- A request is authentic if the record under its name finds no fault with it. -/
lemma authenticate_eq_ok_iff {n : Node} :
    (c.authenticate claimed token now).2 = .ok n ↔
      ∃ node, c.nodes.get? claimed.name = some node ∧
        credentialFault? node claimed token now = none ∧ n = heard now node := by
  cases h : c.nodes.get? claimed.name with
  | none => simp [authenticate_of_none h]
  | some node =>
    cases hf : credentialFault? node claimed token now with
    | some e => simp [authenticate_of_fault h hf, hf]
    | none => simp [authenticate_of_no_fault h hf, hf, eq_comm]

/-- Nothing speaks against a request with the identity and the token of a record that heard from its
peer a short while ago, or never. -/
lemma credentialFault?_eq_none_iff {node : Node} :
    credentialFault? node claimed token now = none ↔
      node.identity = claimed ∧ token ≠ "" ∧ node.inToken = token ∧
        ∀ s ∈ node.heardAt, s.isRecent now = true := by
  rw [credentialFault?]
  split_ifs with hid htoken hage
  · simp [hid]
  · simp only [false_iff, not_and]
    rintro - hne rfl
    simp_all
  · simp only [false_iff, not_and]
    rintro - - -
    simpa [Option.any_eq_true] using hage
  · obtain ⟨hne, rfl⟩ : node.inToken ≠ "" ∧ node.inToken = token := by simpa using htoken
    have hid' : node.identity = claimed := by simpa using hid
    simpa [hid', hne, Option.any_eq_true] using hage

/-- A successful authentication stores the record that it gives. -/
lemma get?_authenticate_of_ok {n : Node} (h : (c.authenticate claimed token now).2 = .ok n)
    (name : String) :
    (c.authenticate claimed token now).1.nodes.get? name =
      if claimed.name = name then some n else c.nodes.get? name := by
  obtain ⟨node, hget, hf, rfl⟩ := authenticate_eq_ok_iff.1 h
  simp [authenticate_of_no_fault hget hf]

/-- A refused request leaves all records as they are. -/
lemma get?_authenticate_of_error {e : AuthError}
    (h : (c.authenticate claimed token now).2 = .error e) (name : String) :
    (c.authenticate claimed token now).1.nodes.get? name = c.nodes.get? name := by
  cases hget : c.nodes.get? claimed.name with
  | none => rw [authenticate_of_none hget]
  | some node =>
    cases hf : credentialFault? node claimed token now with
    | some e' =>
      rw [authenticate_of_fault hget hf, Roster.get?_insert]
      split_ifs with hname
      · rw [← hname, hget]
      · rfl
    | none => simp [authenticate_of_no_fault hget hf] at h

/-- An authentication leaves the credentials of the cluster alone. -/
lemma exists_authenticate_eq (c : Cluster) (claimed : Identity) (token : String) (now : Instant) :
    ∃ nodes quarantine, (c.authenticate claimed token now).1 = { c with nodes, quarantine } := by
  cases hget : c.nodes.get? claimed.name with
  | none => exact ⟨c.nodes, c.quarantine, by rw [authenticate_of_none hget]⟩
  | some node =>
    cases hf : credentialFault? node claimed token now with
    | some e => exact ⟨_, c.quarantine, by rw [authenticate_of_fault hget hf]⟩
    | none => exact ⟨_, _, by rw [authenticate_of_no_fault hget hf]; rfl⟩

@[simp] lemma name_authenticate (c : Cluster) (claimed : Identity) (token : String) (now : Instant) :
    (c.authenticate claimed token now).1.name = c.name := by
  obtain ⟨nodes, quarantine, h⟩ := exists_authenticate_eq c claimed token now
  rw [h]

@[simp] lemma token_authenticate (c : Cluster) (claimed : Identity) (token : String) (now : Instant) :
    (c.authenticate claimed token now).1.token = c.token := by
  obtain ⟨nodes, quarantine, h⟩ := exists_authenticate_eq c claimed token now
  rw [h]

/-- A record with a token that has just heard from its peer is live. -/
lemma registeredLocalAt_heard {node : Node} (h : node.inToken ≠ "") (now : Instant) :
    (heard now node).registeredLocalAt now = true := by
  have hrecent : Instant.isRecent now now = true := by
    rw [Instant.isRecent, Int.sub_self]
    decide
  simp [Node.registeredLocalAt, heard, h, hrecent]

/-! ### Heartbeats -/

/-- To the cluster a heartbeat is an authentication. -/
@[simp] lemma heartbeat_fst (c : Cluster) (claimed : Identity) (token : String) (now : Instant) :
    (c.heartbeat claimed token now).1 = (c.authenticate claimed token now).1 := by
  rw [heartbeat]
  split <;> simp_all

/-- A heartbeat is answered with peers if and only if its sender is authenticated. -/
lemma exists_heartbeat_eq_ok_iff :
    (∃ peers, (c.heartbeat claimed token now).2 = .ok peers) ↔
      ∃ n, (c.authenticate claimed token now).2 = .ok n := by
  rw [heartbeat]
  split <;> simp_all

/-- A node is told of the live peers other than itself. -/
lemma mem_peersFor {name : String} {peer : Identity} :
    peer ∈ c.peersFor name now ↔
      ∃ key node, c.nodes.get? key = some node ∧ node.name ≠ name ∧ node.isValidAt now = true ∧
        node.identity = peer := by
  simp only [peersFor, Roster.select, List.mem_map, List.mem_filter, Roster.mem_nodes,
    Bool.and_eq_true, bne_iff_ne]
  constructor
  · rintro ⟨node, ⟨⟨key, hget⟩, hname, hvalid⟩, hid⟩
    exact ⟨key, node, hget, hname, hvalid, hid⟩
  · rintro ⟨key, node, hget, hname, hvalid, hid⟩
    exact ⟨node, ⟨⟨key, hget⟩, hname, hvalid⟩, hid⟩

/-- The reply to a heartbeat lists the peers that the cluster holds once its sender is authenticated. -/
lemma heartbeat_of_ok {n : Node} (h : (c.authenticate claimed token now).2 = .ok n) :
    (c.heartbeat claimed token now).2 =
      .ok ((c.authenticate claimed token now).1.peersFor claimed.name now) := by
  rw [heartbeat]
  split <;> simp_all

/-- Why a heartbeat is turned down if its sender is not authenticated. -/
def heartbeatFault : AuthError → HeartbeatError
  | .nodeNotExist name => .nodeDropped name
  | e => .auth e

/-- A heartbeat fails for the reasons for which authentication does. -/
lemma heartbeat_of_error {e : AuthError} (h : (c.authenticate claimed token now).2 = .error e) :
    (c.heartbeat claimed token now).2 = .error (heartbeatFault e) := by
  rw [heartbeat]
  cases e <;> split <;> simp_all [heartbeatFault]

/-! ### Eviction -/

@[simp] lemma nodes_evictStale (c : Cluster) (now : Instant) :
    (c.evictStale now).1.nodes = (c.nodes.filter (·.survivesAt now)).1 := rfl

/-- The names that an eviction gives are those of stale records. -/
lemma mem_evictStale {name : String} :
    name ∈ (c.evictStale now).2 ↔
      ∃ node, c.nodes.get? name = some node ∧ node.survivesAt now = false :=
  Roster.mem_filter

/-! ### Registration -/

section Register

variable {server fresh : String}

/-- Screening touches the quarantine only. -/
lemma exists_screen_eq (c : Cluster) (claimed : Identity) (token server : String) (now : Instant) :
    ∃ quarantine, (c.screen claimed token server now).1 = { c with quarantine } := by
  rw [screen]
  split_ifs
  · exact ⟨c.quarantine, rfl⟩
  · exact ⟨c.quarantine, rfl⟩
  · split
    · exact ⟨_, rfl⟩
    · exact ⟨_, rfl⟩

@[simp] lemma nodes_screen (c : Cluster) (claimed : Identity) (token server : String) (now : Instant) :
    (c.screen claimed token server now).1.nodes = c.nodes := by
  obtain ⟨quarantine, h⟩ := exists_screen_eq c claimed token server now
  rw [h]

/-- The roster is consulted for nodes that can be reached, do not go by the name of the server, and
know the name and the token of the cluster. -/
lemma screen_eq_ok_iff :
    (c.screen claimed token server now).2 = .ok () ↔
      claimed.HasAddress ∧ claimed.name ≠ server ∧ claimed.cluster = c.name ∧ token = c.token := by
  rw [screen, belongs, Identity.HasAddress]
  split_ifs with haddr hname hcluster
  · simp only [false_iff, not_and]
    rintro ⟨hhost, hport⟩
    simp_all
  · simp [hname]
  · simp only [false_iff, not_and]
    rintro - - hname' rfl
    simp [hname'] at hcluster
  · simp only [true_iff]
    tauto

/-- A record of another identity is not given away. -/
lemma reregister_of_ne {node : Node} (h : node.identity ≠ claimed) :
    reregister claimed fresh now node = (node, .error (.nameCollision claimed.name)) := by
  simp [reregister, h]

/-- A live registration is answered with the token that it had. -/
lemma reregister_of_live {node : Node} (h : node.identity = claimed)
    (hlive : node.registeredLocalAt now = true) :
    reregister claimed fresh now node = (heard now node, .ok ⟨node.inToken, true⟩) := by
  simp [reregister, h, hlive]

/-- A stale registration gets a new token. -/
lemma reregister_of_stale {node : Node} (h : node.identity = claimed)
    (hstale : node.registeredLocalAt now = false) :
    reregister claimed fresh now node =
      (heard now { node with inToken := fresh }, .ok ⟨fresh, false⟩) := by
  simp [reregister, h, hstale]

lemma renew?_of_none {nodes : Roster} (h : nodes.get? claimed.name = none) :
    renew? nodes claimed fresh now = none :=
  Roster.modify?_eq_none_iff.2 h

lemma renew?_of_known {nodes : Roster} {node : Node} (h : nodes.get? claimed.name = some node) :
    renew? nodes claimed fresh now =
      some (nodes.insert claimed.name (reregister claimed fresh now node).1,
        (reregister claimed fresh now node).2) :=
  Roster.modify?_of_get? _ h

lemma enroll?_of_none {nodes : Roster} (h : nodes.get? claimed.name = none) :
    enroll? nodes claimed fresh now =
      some (nodes.insert claimed.name (.registered claimed fresh now), ⟨fresh, false⟩) := by
  simp [enroll?, Roster.insertIfAbsent?, Roster.contains_eq_isSome, h]

lemma enroll?_of_known {nodes : Roster} {node : Node} (h : nodes.get? claimed.name = some node) :
    enroll? nodes claimed fresh now = none := by
  simp [enroll?, Roster.insertIfAbsent?, Roster.contains_eq_isSome, h]

/-- A registration that is screened out comes no further. -/
lemma register_of_screen_error {e : RegisterError}
    (h : (c.screen claimed token server now).2 = .error e) :
    c.register claimed token server fresh now = ((c.screen claimed token server now).1, .error e) := by
  rw [register]
  split <;> simp_all

lemma register_of_none (hs : (c.screen claimed token server now).2 = .ok ())
    (h : c.nodes.get? claimed.name = none) :
    c.register claimed token server fresh now =
      ({ (c.screen claimed token server now).1 with
          nodes := c.nodes.insert claimed.name (.registered claimed fresh now) },
        .ok ⟨fresh, false⟩) := by
  have hnodes := nodes_screen c claimed token server now
  rw [register]
  split
  · simp_all
  · rename_i c' hc'
    simp only [hc'] at hnodes ⊢
    rw [hnodes, renew?_of_none h]

/-- Under a name that is known, the decision is made on its record. -/
lemma register_of_known {node : Node} (hs : (c.screen claimed token server now).2 = .ok ())
    (h : c.nodes.get? claimed.name = some node) :
    c.register claimed token server fresh now =
      ({ (c.screen claimed token server now).1 with
          nodes := c.nodes.insert claimed.name (reregister claimed fresh now node).1 },
        (reregister claimed fresh now node).2) := by
  have hnodes := nodes_screen c claimed token server now
  rw [register]
  split
  · simp_all
  · rename_i c' hc'
    simp only [hc'] at hnodes ⊢
    rw [hnodes, renew?_of_known h]

/-- A registration succeeds for a new name and for the node that the record under its name is about; a
live token stays, and else the fresh one is issued. -/
lemma register_eq_ok_iff {r : Registration} :
    (c.register claimed token server fresh now).2 = .ok r ↔
      (c.screen claimed token server now).2 = .ok () ∧
        ((c.nodes.get? claimed.name = none ∧ r = ⟨fresh, false⟩) ∨
          ∃ node, c.nodes.get? claimed.name = some node ∧ node.identity = claimed ∧
            r = if node.registeredLocalAt now then ⟨node.inToken, true⟩ else ⟨fresh, false⟩) := by
  cases hs : (c.screen claimed token server now).2 with
  | error e => simp [register_of_screen_error hs]
  | ok u =>
    cases h : c.nodes.get? claimed.name with
    | none => simp [register_of_none hs h, eq_comm (a := r)]
    | some node =>
      rw [register_of_known hs h]
      by_cases hid : node.identity = claimed
      · cases hlive : node.registeredLocalAt now with
        | true => simp [reregister_of_live hid hlive, hid, hlive, eq_comm (a := r)]
        | false => simp [reregister_of_stale hid hlive, hid, hlive, eq_comm (a := r)]
      · simp [reregister_of_ne hid, hid]

/-- The record of a node that was admitted: the known one, or else a new one, with its token. -/
def admitted (known : Option Node) (claimed : Identity) (token : String) (now : Instant) : Node :=
  match known with
  | none => .registered claimed token now
  | some node => heard now { node with inToken := token }

@[simp] lemma inToken_admitted (known : Option Node) (claimed : Identity) (token : String)
    (now : Instant) : (admitted known claimed token now).inToken = token := by
  cases known <;> rfl

@[simp] lemma heardAt_admitted (known : Option Node) (claimed : Identity) (token : String)
    (now : Instant) : (admitted known claimed token now).heardAt = some now := by
  cases known <;> rfl

/-- The record of a node that was admitted is about that node. -/
lemma identity_admitted_of_ok {r : Registration}
    (h : (c.register claimed token server fresh now).2 = .ok r) (secret : String) (t : Instant) :
    (admitted (c.nodes.get? claimed.name) claimed secret t).identity = claimed := by
  obtain ⟨-, ⟨hnone, -⟩ | ⟨node, hget, hid, -⟩⟩ := register_eq_ok_iff.1 h
  · rw [hnone]
    rfl
  · rw [hget]
    exact hid

/-- A successful registration leaves a record of the node with the token that it answered. -/
lemma get?_register_of_ok {r : Registration}
    (h : (c.register claimed token server fresh now).2 = .ok r) (name : String) :
    (c.register claimed token server fresh now).1.nodes.get? name =
      if claimed.name = name then some (admitted (c.nodes.get? claimed.name) claimed r.token now)
      else c.nodes.get? name := by
  obtain ⟨hs, ⟨hnone, rfl⟩ | ⟨node, hget, hid, rfl⟩⟩ := register_eq_ok_iff.1 h
  · simp [register_of_none hs hnone, hnone, admitted]
  · rw [register_of_known hs hget, Roster.get?_insert, hget]
    cases hlive : node.registeredLocalAt now with
    | true => simp [reregister_of_live hid hlive, admitted, heard]
    | false => simp [reregister_of_stale hid hlive, admitted]

/-- A refused registration changes no record. -/
lemma get?_register_of_error {e : RegisterError}
    (h : (c.register claimed token server fresh now).2 = .error e) (name : String) :
    (c.register claimed token server fresh now).1.nodes.get? name = c.nodes.get? name := by
  cases hs : (c.screen claimed token server now).2 with
  | error e' => rw [register_of_screen_error hs, nodes_screen]
  | ok u =>
    cases hget : c.nodes.get? claimed.name with
    | none => simp [register_of_none hs hget] at h
    | some node =>
      rw [register_of_known hs hget] at h ⊢
      have hid : node.identity ≠ claimed := by
        intro hid
        cases hlive : node.registeredLocalAt now with
        | true => simp [reregister_of_live hid hlive] at h
        | false => simp [reregister_of_stale hid hlive] at h
      rw [reregister_of_ne hid, Roster.get?_insert]
      split_ifs with hname
      · rw [← hname, hget]
      · rfl

/-- A registration leaves the credentials of the cluster alone. -/
lemma exists_register_eq (c : Cluster) (claimed : Identity) (token server fresh : String)
    (now : Instant) :
    ∃ nodes quarantine, (c.register claimed token server fresh now).1 = { c with nodes, quarantine } := by
  obtain ⟨quarantine, h⟩ := exists_screen_eq c claimed token server now
  cases hs : (c.screen claimed token server now).2 with
  | error e => exact ⟨c.nodes, quarantine, by rw [register_of_screen_error hs, h]⟩
  | ok u =>
    cases hget : c.nodes.get? claimed.name with
    | none => exact ⟨_, quarantine, by rw [register_of_none hs hget, h]⟩
    | some node => exact ⟨_, quarantine, by rw [register_of_known hs hget, h]⟩

@[simp] lemma name_register (c : Cluster) (claimed : Identity) (token server fresh : String)
    (now : Instant) : (c.register claimed token server fresh now).1.name = c.name := by
  obtain ⟨nodes, quarantine, h⟩ := exists_register_eq c claimed token server fresh now
  rw [h]

@[simp] lemma token_register (c : Cluster) (claimed : Identity) (token server fresh : String)
    (now : Instant) : (c.register claimed token server fresh now).1.token = c.token := by
  obtain ⟨nodes, quarantine, h⟩ := exists_register_eq c claimed token server fresh now
  rw [h]

end Register

end Cluster

end Flotilla
