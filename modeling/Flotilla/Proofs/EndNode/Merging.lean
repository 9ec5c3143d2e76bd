import Flotilla.Proofs.EndNode.Handover

/-!
# Merging lists of peers

A merge goes through a list and takes up whoever is new.  What it comes to can be said without the loop: every
name that is free gets a record of the first peer that is listed under it, and there are as many new records as
the merge says.  So a list that has been merged is merged without effect, and lists that agree are merged in
any order.
-/

namespace Flotilla

namespace PeerView

variable {v : PeerView} {peers others : List Identity} {peer : Identity} {now t : Instant} {name : String}

/-! ### What a merge comes to -/

/-- The first peer on a list that goes by a name and belongs to the cluster of the node. -/
def firstListed? (v : PeerView) (peers : List Identity) (name : String) : Option Identity :=
  peers.find? fun peer => peer.name = name ∧ peer.cluster = v.this.cluster

/-- What a merge comes to, with the number of peers that it says were new.  Every record that was there is
there as it was.  A name without a record has one now if and only if it is neither that of the node nor that of
its center and somebody in the cluster is listed under it; then it is about the first one, it has no tokens and
has got no signals, it is not local, and it was made at that time.  The table has grown by the number given,
and so has its revision; nothing else has changed. -/
structure Merges (v : PeerView) (peers : List Identity) (now : Instant) (later : PeerView) (added : ℕ) :
    Prop where
  kept : ∀ name node, v.cluster.nodes.get? name = some node → later.cluster.nodes.get? name = some node
  gained : ∀ name node, v.cluster.nodes.get? name = none →
    (later.cluster.nodes.get? name = some node ↔
      name ≠ v.this.name ∧ v.center.contains name = false ∧
        ∃ peer, v.firstListed? peers name = some peer ∧
          node = { identity := peer, inToken := "", outToken := "", heardAt := none, reportedAt := none,
                   createdAt := now, isLocal := false })
  size_eq : later.cluster.nodes.entries.size = v.cluster.nodes.entries.size + added
  eq : later = { v with cluster.nodes :=
    ⟨later.cluster.nodes.entries, v.cluster.nodes.revision + UInt64.ofNat added⟩ }

/-- No name is given one identity by one list and another one by another list. -/
def Agree (peers others : List Identity) : Prop :=
  ∀ peer ∈ peers, ∀ other ∈ others, peer.name = other.name → peer = other

instance : Decidable (Agree peers others) :=
  inferInstanceAs (Decidable (∀ peer ∈ peers, ∀ other ∈ others, peer.name = other.name → peer = other))

/-! ### Look-ups after a merge -/

/-- Under a name that is not to be taken up nobody on a list is accepted, and under another one whoever
belongs to the cluster. -/
lemma find?_accepts_eq (v : PeerView) (peers : List Identity) (name : String) :
    (peers.find? fun peer => v.accepts peer && peer.name == name) =
      if name ≠ v.this.name ∧ v.center.contains name = false then v.firstListed? peers name else none := by
  split_ifs with hfree
  · obtain ⟨hthis, hcenter⟩ := hfree
    rw [firstListed?]
    congr 1
    funext peer
    by_cases hname : peer.name = name
    · subst hname
      have hne : (peer.name != v.this.name) = true := bne_iff_ne.2 hthis
      simp [accepts, hne, hcenter, beq_eq_decide]
    · simp [hname]
  · rw [List.find?_eq_none]
    intro peer _ hpeer
    simp only [accepts, Bool.and_eq_true, bne_iff_ne, beq_iff_eq, Bool.not_eq_true'] at hpeer
    obtain ⟨⟨⟨hthis, -⟩, hcenter⟩, rfl⟩ := hpeer
    exact hfree ⟨hthis, hcenter⟩

/-- A merge gains a name just if somebody accepted is listed under it, and takes the first one. -/
lemma gained_mergePeers {node : Node} (hnone : v.cluster.nodes.get? name = none) :
    (v.mergePeers peers now).1.cluster.nodes.get? name = some node ↔
      name ≠ v.this.name ∧ v.center.contains name = false ∧
        ∃ peer, v.firstListed? peers name = some peer ∧ node = .new peer now := by
  rw [get?_mergePeers_eq, hnone, Option.none_or, find?_accepts_eq]
  split_ifs with hfree
  · rw [Option.map_eq_some_iff]
    constructor
    · rintro ⟨peer, hpeer, rfl⟩
      exact ⟨hfree.1, hfree.2, peer, hpeer, rfl⟩
    · rintro ⟨-, -, peer, hpeer, rfl⟩
      exact ⟨peer, hpeer, rfl⟩
  · simp only [Option.map_none, reduceCtorEq, false_iff]
    exact fun ⟨hthis, hcenter, _⟩ => hfree ⟨hthis, hcenter⟩

/-! ### How much a merge adds -/

/-- So far a merge has changed nothing but the roster of the cluster, and that has grown by the number of
peers counted. -/
structure GrownBy (v : PeerView) (later : PeerView × ℕ) : Prop where
  size_eq : later.1.cluster.nodes.entries.size = v.cluster.nodes.entries.size + later.2
  eq : later.1 = { v with cluster.nodes :=
    ⟨later.1.cluster.nodes.entries, v.cluster.nodes.revision + UInt64.ofNat later.2⟩ }

/-- A peer is counted if and only if it is stored under a name that was free. -/
lemma GrownBy.mergePeer {later : PeerView × ℕ} (h : v.GrownBy later) (peer : Identity) (now : Instant) :
    v.GrownBy (mergePeer now later peer) := by
  rw [mergePeer_eq]
  split_ifs with hnew
  · obtain ⟨-, hfree⟩ := hnew
    constructor
    · have hsize := h.size_eq
      simp only [Roster.contains] at hfree
      simp only [Roster.insert, Std.ExtTreeMap.size_insert, hfree, Bool.false_eq_true, if_false]
      omega
    · have hrevision : later.1.cluster.nodes.revision =
          v.cluster.nodes.revision + UInt64.ofNat later.2 := by rw [h.eq]
      rw [h.eq]
      simp only [Roster.insert, UInt64.ofNat_add, UInt64.add_assoc]
      rfl
  · exact h

/-- What a merge gains is counted. -/
lemma grownBy_mergePeers (v : PeerView) (peers : List Identity) (now : Instant) :
    v.GrownBy (v.mergePeers peers now) := by
  have hstart : v.GrownBy (v, 0) := ⟨rfl, by simp⟩
  suffices h : ∀ later, v.GrownBy later → v.GrownBy (peers.foldl (PeerView.mergePeer now) later) from h _ hstart
  induction peers with
  | nil => exact fun later h => h
  | cons peer peers ih => exact fun later h => ih _ (h.mergePeer peer now)

lemma merges_mergePeers (v : PeerView) (peers : List Identity) (now : Instant) :
    v.Merges peers now (v.mergePeers peers now).1 (v.mergePeers peers now).2 where
  kept := fun _ _ hget => get?_mergePeers_of_some hget peers
  gained := fun _ _ hnone => gained_mergePeers hnone
  size_eq := (grownBy_mergePeers v peers now).size_eq
  eq := (grownBy_mergePeers v peers now).eq

/-! ### Merging again, and in another order -/

lemma accepts_mergePeers (v : PeerView) (peers : List Identity) (now : Instant) :
    (v.mergePeers peers now).1.accepts = v.accepts := by
  rw [(grownBy_mergePeers v peers now).eq]
  rfl

/-- Nothing is done if all peers are known that may be taken up. -/
lemma mergePeers_of_known
    (h : ∀ peer ∈ peers, v.accepts peer = true → v.cluster.nodes.contains peer.name = true) (t : Instant) :
    v.mergePeers peers t = (v, 0) := by
  rw [mergePeers]
  induction peers with
  | nil => rfl
  | cons peer peers ih =>
    obtain ⟨hpeer, hpeers⟩ := List.forall_mem_cons.1 h
    have hstep : mergePeer t (v, 0) peer = (v, 0) := by
      rw [mergePeer_eq, if_neg]
      rintro ⟨haccepts, hfree⟩
      rw [hpeer haccepts] at hfree
      cases hfree
    rw [List.foldl_cons, hstep, ih hpeers]

/-- The same peers bring nothing new a second time. -/
lemma mergePeers_mergePeers (v : PeerView) (peers : List Identity) (now t : Instant) :
    (v.mergePeers peers now).1.mergePeers peers t = ((v.mergePeers peers now).1, 0) := by
  apply mergePeers_of_known
  intro peer hpeer haccepts
  rw [accepts_mergePeers] at haccepts
  obtain ⟨node, hnode⟩ : ∃ node, (v.mergePeers peers now).1.cluster.nodes.get? peer.name = some node :=
    exists_get?_mergePeers hpeer haccepts
  rw [Roster.contains_eq_isSome, hnode]
  rfl

/-- Where two lists agree, they have the same first peer of a name, if both have one. -/
lemma Agree.or_find?_comm (h : Agree peers others) (p : Identity → Bool) (name : String)
    (hname : ∀ peer, p peer = true → peer.name = name) :
    (peers.find? p).or (others.find? p) = (others.find? p).or (peers.find? p) := by
  cases hpeer : peers.find? p with
  | none => exact Option.or_none.symm
  | some peer =>
    cases hother : others.find? p with
    | none => rfl
    | some other =>
      have hsame : peer.name = other.name :=
        (hname peer (List.find?_some hpeer)).trans (hname other (List.find?_some hother)).symm
      rw [h peer (List.mem_of_find?_eq_some hpeer) other (List.mem_of_find?_eq_some hother) hsame]

/-- After two merges a record is an old one, or it comes from the first list that names it. -/
lemma get?_mergePeers_mergePeers (v : PeerView) (peers others : List Identity) (now : Instant)
    (name : String) :
    ((v.mergePeers peers now).1.mergePeers others now).1.cluster.nodes.get? name =
      (v.cluster.nodes.get? name).or
        (((peers.find? fun peer => v.accepts peer && peer.name == name).or
          (others.find? fun peer => v.accepts peer && peer.name == name)).map (.new · now)) := by
  rw [get?_mergePeers_eq, accepts_mergePeers, get?_mergePeers_eq, Option.or_assoc, Option.map_or]

/-- After two merges the roster has grown by what both have counted, and nothing else has changed. -/
lemma grownBy_mergePeers_mergePeers (v : PeerView) (peers others : List Identity) (now : Instant) :
    v.GrownBy (((v.mergePeers peers now).1.mergePeers others now).1,
      (v.mergePeers peers now).2 + ((v.mergePeers peers now).1.mergePeers others now).2) := by
  have hfirst := grownBy_mergePeers v peers now
  have hsecond := grownBy_mergePeers (v.mergePeers peers now).1 others now
  constructor
  · rw [hsecond.size_eq, hfirst.size_eq, Nat.add_assoc]
  · rw [hsecond.eq, hfirst.eq, UInt64.ofNat_add, UInt64.add_assoc]

/-- Two ways to grow a node come to the same if they lead to the same records. -/
lemma GrownBy.unique {later later' : PeerView × ℕ} (h : v.GrownBy later) (h' : v.GrownBy later')
    (hentries : later.1.cluster.nodes.entries = later'.1.cluster.nodes.entries) : later = later' := by
  have hadded : later.2 = later'.2 := by
    have hsize := h.size_eq
    rw [hentries, h'.size_eq] at hsize
    omega
  refine Prod.ext ?_ hadded
  rw [h.eq, h'.eq, hentries, hadded]

/-- Lists that agree on every name may be merged in either order. -/
lemma Agree.mergePeers_comm (h : Agree peers others) (v : PeerView) (now : Instant) :
    (((v.mergePeers peers now).1.mergePeers others now).1,
        (v.mergePeers peers now).2 + ((v.mergePeers peers now).1.mergePeers others now).2) =
      (((v.mergePeers others now).1.mergePeers peers now).1,
        (v.mergePeers others now).2 + ((v.mergePeers others now).1.mergePeers peers now).2) := by
  refine (grownBy_mergePeers_mergePeers v peers others now).unique
    (grownBy_mergePeers_mergePeers v others peers now) ?_
  apply Std.ExtTreeMap.ext_getElem?
  intro name
  have hleft := get?_mergePeers_mergePeers v peers others now name
  have hright := get?_mergePeers_mergePeers v others peers now name
  rw [h.or_find?_comm _ name (by simp)] at hleft
  exact hleft.trans hright.symm

/-- A merge only adds, and it counts what it adds.  It comes to what `Merges` says.  To merge the same list again,
now or later, adds nothing and changes nothing; and two lists that agree can be merged in either order: the node
is the same after both, and as many peers were new in all. -/
theorem mergePeers_only_adds (v : PeerView) (peers : List Identity) (now : Instant) :
    v.Merges peers now (v.mergePeers peers now).1 (v.mergePeers peers now).2 ∧
      (∀ t, (v.mergePeers peers now).1.mergePeers peers t = ((v.mergePeers peers now).1, 0)) ∧
      ∀ others, Agree peers others →
        ((v.mergePeers peers now).1.mergePeers others now).1 =
            ((v.mergePeers others now).1.mergePeers peers now).1 ∧
          (v.mergePeers peers now).2 + ((v.mergePeers peers now).1.mergePeers others now).2 =
            (v.mergePeers others now).2 + ((v.mergePeers others now).1.mergePeers peers now).2 := by
  refine ⟨merges_mergePeers v peers now, mergePeers_mergePeers v peers now, ?_⟩
  intro others hagree
  exact Prod.ext_iff.1 (hagree.mergePeers_comm v now)

/-! ### Rumors -/

namespace Rumors

def known : Node := { Node.registered ⟨"b", "10.0.0.2", 5000, "prod"⟩ "in" 0 with outToken := "out" }

/-- A node that knows this peer and reports to a center. -/
def node : PeerView :=
  { PeerView.new ⟨"a", "10.0.0.1", 5000, "prod"⟩ "s" with
    cluster.nodes := Roster.empty.insert "b" known
    center := Roster.empty.insert "c" (.fixed ⟨"c", "10.0.0.100", 6000, "prod"⟩ 0) }

/-- What one peer says: it names the node itself, the center, the known peer under another address, a stranger
under two addresses, and another one in two clusters. -/
def heard : List Identity :=
  [⟨"a", "10.0.0.9", 5000, "prod"⟩, ⟨"c", "10.0.0.9", 5000, "prod"⟩, ⟨"b", "10.0.0.9", 5000, "prod"⟩,
    ⟨"x", "10.0.0.3", 5000, "prod"⟩, ⟨"x", "10.0.0.4", 5000, "prod"⟩, ⟨"y", "10.0.0.5", 5000, "staging"⟩,
    ⟨"y", "10.0.0.6", 5000, "prod"⟩]

/-- What another peer says. -/
def heardToo : List Identity := [⟨"z", "10.0.0.7", 5000, "prod"⟩, ⟨"b", "10.0.0.9", 5000, "prod"⟩]

end Rumors

/-- The stranger is known under the first address, the other one in the own cluster, and it does not matter who
was heard first. -/
theorem mergePeers_only_adds_rumors :
    Agree Rumors.heard Rumors.heardToo ∧
      (Rumors.node.mergePeers Rumors.heard 7).1.cluster.nodes.get? "x" =
        some (.new ⟨"x", "10.0.0.3", 5000, "prod"⟩ 7) ∧
      (Rumors.node.mergePeers Rumors.heard 7).1.cluster.nodes.get? "y" =
        some (.new ⟨"y", "10.0.0.6", 5000, "prod"⟩ 7) ∧
      ((Rumors.node.mergePeers Rumors.heard 7).1.mergePeers Rumors.heardToo 7).1 =
        ((Rumors.node.mergePeers Rumors.heardToo 7).1.mergePeers Rumors.heard 7).1 := by
  have hagree : Agree Rumors.heard Rumors.heardToo := by decide
  obtain ⟨hmerges, -, hcomm⟩ := mergePeers_only_adds Rumors.node Rumors.heard 7
  refine ⟨hagree, ?_, ?_, (hcomm Rumors.heardToo hagree).1⟩
  · refine (hmerges.gained "x" _ ?_).2 ⟨by decide, ?_, ⟨"x", "10.0.0.3", 5000, "prod"⟩, by decide, rfl⟩
    · simp [Rumors.node]
    · simp [Rumors.node, Roster.contains_eq_isSome]
  · refine (hmerges.gained "y" _ ?_).2 ⟨by decide, ?_, ⟨"y", "10.0.0.6", 5000, "prod"⟩, by decide, rfl⟩
    · simp [Rumors.node]
    · simp [Rumors.node, Roster.contains_eq_isSome]

end PeerView

end Flotilla
