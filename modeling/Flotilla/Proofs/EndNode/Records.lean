import Flotilla.Proofs.Cluster.Events

/-!
# What a node does to the records it keeps

Besides answering requests a node takes up the peers that others list, and settles its contacts.
-/

namespace Flotilla.PeerView

open Rpc (CallError)

variable {v : PeerView} {now : Instant}

/-! ### Merging -/

/-- A merge of one peer, with its checks in one place. -/
lemma mergePeer_eq (v : PeerView × ℕ) (peer : Identity) (now : Instant) :
    mergePeer now v peer =
      if v.1.accepts peer = true ∧ v.1.cluster.nodes.contains peer.name = false then
        ({ v.1 with cluster.nodes := v.1.cluster.nodes.insert peer.name (.new peer now) }, v.2 + 1)
      else v := by
  rw [mergePeer, Roster.insertIfAbsent?]
  cases v.1.accepts peer with
  | false => simp
  | true => cases v.1.cluster.nodes.contains peer.name <;> simp

/-- Only an accepted peer is new to the table, and a record that is there stays. -/
lemma get?_mergePeer (v : PeerView × ℕ) (peer : Identity) (now : Instant) (key : String) :
    (mergePeer now v peer).1.cluster.nodes.get? key =
      if v.1.accepts peer ∧ peer.name = key then
        some ((v.1.cluster.nodes.get? key).getD (.new peer now))
      else v.1.cluster.nodes.get? key := by
  rw [mergePeer_eq, Roster.contains_eq_isSome]
  cases hget : v.1.cluster.nodes.get? peer.name with
  | none => split_ifs <;> simp_all
  | some known => split_ifs <;> simp_all

/-- A merge leaves everything but the roster of the cluster alone. -/
lemma exists_mergePeers_eq (v : PeerView) (peers : List Identity) (now : Instant) :
    ∃ nodes, (v.mergePeers peers now).1 = { v with cluster.nodes := nodes } := by
  suffices h : ∀ v' : PeerView × ℕ, ∃ nodes,
      (peers.foldl (mergePeer now) v').1 = { v'.1 with cluster.nodes := nodes } from h (v, 0)
  induction peers with
  | nil => exact fun v' => ⟨v'.1.cluster.nodes, rfl⟩
  | cons peer peers ih =>
    intro v'
    rw [List.foldl_cons, mergePeer_eq]
    split_ifs
    · exact ih _
    · exact ih v'

@[simp] lemma this_mergePeers (v : PeerView) (peers : List Identity) (now : Instant) :
    (v.mergePeers peers now).1.this = v.this := by
  obtain ⟨nodes, h⟩ := exists_mergePeers_eq v peers now
  rw [h]

/-- A record that is there after a merge was there before, or is a new one of a peer on the list. -/
lemma get?_mergePeers {peers : List Identity} {key : String} {node : Node}
    (h : (v.mergePeers peers now).1.cluster.nodes.get? key = some node) :
    v.cluster.nodes.get? key = some node ∨
      v.cluster.nodes.get? key = none ∧ ∃ peer ∈ peers, peer.name = key ∧ node = .new peer now := by
  suffices hfold : ∀ v' : PeerView × ℕ,
      (peers.foldl (mergePeer now) v').1.cluster.nodes.get? key = some node →
        v'.1.cluster.nodes.get? key = some node ∨
          v'.1.cluster.nodes.get? key = none ∧
            ∃ peer ∈ peers, peer.name = key ∧ node = .new peer now from hfold (v, 0) h
  clear h
  induction peers with
  | nil => exact fun v' h => .inl h
  | cons peer peers ih =>
    intro v' h
    have hstep := get?_mergePeer v' peer now key
    rcases ih (mergePeer now v' peer) h with hget | ⟨hnone, later, hlater, hname, rfl⟩
    · rw [hget] at hstep
      split_ifs at hstep with hpeer
      · cases hold : v'.1.cluster.nodes.get? key with
        | some old => exact .inl (by simpa [hold] using hstep.symm)
        | none => exact .inr ⟨rfl, peer, by simp, hpeer.2, by simpa [hold] using hstep⟩
      · exact .inl hstep.symm
    · rw [hnone] at hstep
      split_ifs at hstep with hpeer
      exact .inr ⟨hstep.symm, later, by simp [hlater], hname, rfl⟩

/-- A merge leaves the records alone that are there. -/
lemma get?_mergePeers_of_some {key : String} {node : Node} (h : v.cluster.nodes.get? key = some node)
    (peers : List Identity) : (v.mergePeers peers now).1.cluster.nodes.get? key = some node := by
  suffices hfold : ∀ v' : PeerView × ℕ, v'.1.cluster.nodes.get? key = some node →
      (peers.foldl (mergePeer now) v').1.cluster.nodes.get? key = some node from hfold (v, 0) h
  induction peers with
  | nil => exact fun v' h => h
  | cons peer peers ih =>
    intro v' h
    refine ih _ ?_
    rw [get?_mergePeer, h]
    simp

/-! ### Contacts -/

lemma roster_updateSide (v : PeerView) (side side' : Side) (name : String) (f : Node → Node) :
    (v.updateSide side name f).roster side' =
      if side = side' then (v.roster side').update name f else v.roster side' := by
  cases side <;> cases side' <;> rfl

lemma get?_updateSide (v : PeerView) (side side' : Side) (name key : String) (f : Node → Node) :
    ((v.updateSide side name f).roster side').get? key =
      if side = side' ∧ name = key then ((v.roster side').get? key).map f
      else (v.roster side').get? key := by
  rw [roster_updateSide]
  by_cases hside : side = side'
  · simp [hside]
  · simp [hside]

/-- A contact is settled in the record under the name of its peer, whoever this record is about; then
the peers are merged that it brought. -/
lemma settle_eq (v : PeerView) (c : Contact) (outcome : Except CallError News) (now : Instant) :
    v.settle c outcome now =
      ((v.updateSide c.side c.node.name (Contact.settled outcome now)).mergePeers
        (outcome.toOption.elim [] (·.peers)) now).1 := by
  cases outcome with
  | error e => rfl
  | ok news => rfl

/-- A merge brings only fresh records. -/
lemma get?_roster_mergePeers {peers : List Identity} {side : Side} {key : String} {node : Node}
    (h : ((v.mergePeers peers now).1.roster side).get? key = some node) :
    (v.roster side).get? key = some node ∨ ∃ peer, node = .new peer now := by
  cases side with
  | peers =>
    rcases get?_mergePeers h with hold | ⟨-, peer, -, -, rfl⟩
    · exact .inl hold
    · exact .inr ⟨peer, rfl⟩
  | center =>
    obtain ⟨nodes, hnodes⟩ := exists_mergePeers_eq v peers now
    rw [hnodes] at h
    exact .inl h

/-- What a contact leaves was there before, or is a fresh record. -/
lemma get?_settle {c : Contact} {outcome : Except CallError News} {side : Side} {key : String}
    {node : Node} (h : ((v.settle c outcome now).roster side).get? key = some node) :
    (∃ peer, node = .new peer now) ∨
      ∃ old, (v.roster side).get? key = some old ∧
        node = if c.side = side ∧ c.node.name = key then Contact.settled outcome now old else old := by
  rw [settle_eq] at h
  rcases get?_roster_mergePeers h with hget | hnew
  · rw [get?_updateSide] at hget
    split_ifs at hget with hkey
    · obtain ⟨old, hold, rfl⟩ := Option.map_eq_some_iff.1 hget
      exact .inr ⟨old, hold, (if_pos hkey).symm⟩
    · exact .inr ⟨node, hget, (if_neg hkey).symm⟩
  · exact .inl hnew

/-- A record that is there stays, and a contact is settled in it if it goes by the name of the contact. -/
lemma get?_settle_of_some {c : Contact} {key : String} {node : Node}
    (h : v.cluster.nodes.get? key = some node) (outcome : Except CallError News) (now : Instant) :
    (v.settle c outcome now).cluster.nodes.get? key =
      some (if c.side = .peers ∧ c.node.name = key then Contact.settled outcome now node else node) := by
  have hget := get?_updateSide v c.side .peers c.node.name key (Contact.settled outcome now)
  rw [settle_eq]
  refine get?_mergePeers_of_some (hget.trans ?_) _
  have hold : (v.roster .peers).get? key = some node := h
  rw [hold]
  split_ifs <;> rfl

end Flotilla.PeerView
