import Flotilla.Proofs.EndNode.Causes

/-!
# Records in order

Records come to a node from its settings and its store, by registrations, from the lists of others and by
edits, and each way in has checks of its own.  Whichever way a record came, it is about another node of
the same cluster that can be reached, it is stored under the name of that node, and a token in it comes
with the time of a signal.
-/

namespace Flotilla

open Rpc (Answer CallError Method)

/-! ### Records -/

/-- A node may have another one as a peer: their names differ, their clusters do not, and the other one
can be reached. -/
structure Identity.IsPeerOf (peer this : Identity) : Prop where
  name_ne : peer.name ≠ this.name
  cluster_eq : peer.cluster = this.cluster
  hasAddress : peer.HasAddress

/-- What a node keeps of its peers under their names. -/
structure Node.InOrder (this : Identity) (key : String) (node : Node) : Prop where
  name_eq : node.name = key
  isPeer : node.identity.IsPeerOf this
  heard : node.inToken ≠ "" → node.heardAt.isSome = true
  reported : node.outToken ≠ "" → node.reportedAt.isSome = true

/-- A static peer that is not refused is a peer of the node. -/
lemma StaticNode.isPeerOf_of_fault? {e : StaticNode} {this : Identity} (h : e.fault? this = none) :
    (e.identity this).IsPeerOf this := by
  unfold fault? at h
  split_ifs at h with hname hhost hport hown haddress
  refine ⟨hown, rfl, hhost, ?_⟩
  rintro (hzero : e.port = 0)
  apply hport
  rw [hzero]
  decide

namespace Node.InOrder

variable {this peer : Identity} {key : String} {node : Node}

lemma new (h : peer.IsPeerOf this) (now : Instant) : (Node.new peer now).InOrder this peer.name :=
  ⟨rfl, h, fun hin => absurd rfl hin, fun hout => absurd rfl hout⟩

lemma fixed (h : peer.IsPeerOf this) (now : Instant) : (Node.fixed peer now).InOrder this peer.name :=
  ⟨rfl, h, fun hin => absurd rfl hin, fun hout => absurd rfl hout⟩

lemma registered (h : peer.IsPeerOf this) (token : String) (now : Instant) :
    (Node.registered peer token now).InOrder this peer.name :=
  ⟨rfl, h, fun _ => rfl, fun hout => absurd rfl hout⟩

lemma signal (h : node.InOrder this key) (token : String) (now : Instant) :
    (Cluster.heard now { node with inToken := token }).InOrder this key :=
  ⟨h.name_eq, h.isPeer, fun _ => rfl, h.reported⟩

/-- A contact leaves a record in order. -/
lemma settled (h : node.InOrder this key) (outcome : Except CallError News) (now : Instant) :
    (Contact.settled outcome now node).InOrder this key := by
  cases outcome with
  | error e => exact ⟨h.name_eq, h.isPeer, h.heard, fun hout => absurd rfl hout⟩
  | ok news => exact ⟨h.name_eq, h.isPeer, h.heard, fun _ => rfl⟩

lemma promote (h : node.InOrder this key) (identity : Identity) :
    (Roster.promote identity node).1.InOrder this key := by
  unfold Roster.promote
  split_ifs
  · exact ⟨h.name_eq, h.isPeer, h.heard, h.reported⟩
  · exact h

end Node.InOrder

/-! ### Rosters and clusters -/

def Roster.InOrder (this : Identity) (r : Roster) : Prop :=
  ∀ key node, r.get? key = some node → node.InOrder this key

namespace Cluster

/-- The cluster of a node, with all records in order. -/
structure InOrder (this : Identity) (c : Cluster) : Prop where
  name_eq : c.name = this.cluster
  nodes : c.nodes.InOrder this

/-- The event brings no record that is not in order. -/
def Event.IsOrderly (this : Identity) : Event → Prop
  | .register _ _ server _ _ => server = this.name
  | .learn peer _ => peer.IsPeerOf this
  | .store key node => node.InOrder this key
  | .replace key f => ∀ node, node.InOrder this key → (f node).InOrder this key
  | _ => True

variable {this : Identity} {c : Cluster}

/-- Whom a cluster admits is in order afterwards. -/
lemma inOrder_admitted {claimed : Identity} {token fresh : String} {now : Instant} {r : Registration}
    (h : c.InOrder this) (hr : (c.register claimed token this.name fresh now).2 = .ok r) :
    (admitted (c.nodes.get? claimed.name) claimed r.token now).InOrder this claimed.name := by
  obtain ⟨hscreen, -⟩ := register_eq_ok_iff.1 hr
  obtain ⟨haddress, hname, hcluster, -⟩ := screen_eq_ok_iff.1 hscreen
  cases hget : c.nodes.get? claimed.name with
  | none => exact .registered ⟨hname, hcluster.trans h.name_eq, haddress⟩ r.token now
  | some node => exact (h.nodes _ node hget).signal r.token now

/-- An orderly event keeps all records in order. -/
lemma InOrder.step {e : Event} (h : c.InOrder this) (he : e.IsOrderly this) :
    (c.step e).1.InOrder this := by
  refine ⟨(name_step c e).trans h.name_eq, fun name node hget => ?_⟩
  have hchange := change_step c name e
  generalize (c.step e).1.nodes.get? name = after at hget hchange
  generalize hentry : (e, (c.step e).2) = entry at hchange
  cases hchange with
  | admitted hname hr =>
    obtain ⟨rfl, -⟩ := Prod.mk.inj hentry
    obtain rfl : _ = this.name := he
    cases hget
    subst hname
    exact inOrder_admitted h hr
  | authenticated hname hknown | greeted hname hknown =>
    cases hget
    exact (h.nodes _ _ hknown).signal _ _
  | dropped | erased => cases hget
  | learned hname =>
    obtain ⟨rfl, -⟩ := Prod.mk.inj hentry
    cases hget
    exact hname ▸ .new he _
  | settled outcome now =>
    obtain ⟨old, hold, rfl⟩ := Option.map_eq_some_iff.1 hget
    exact (h.nodes name old hold).settled outcome now
  | stored =>
    obtain ⟨rfl, -⟩ := Prod.mk.inj hentry
    cases hget
    exact he
  | replaced f =>
    obtain ⟨rfl, -⟩ := Prod.mk.inj hentry
    obtain ⟨old, hold, rfl⟩ := Option.map_eq_some_iff.1 hget
    exact he old (h.nodes name old hold)
  | kept => exact h.nodes name node hget

lemma InOrder.run {es : List Event} (h : c.InOrder this) (hes : ∀ e ∈ es, e.IsOrderly this) :
    (c.run es).InOrder this := by
  induction es generalizing c with
  | nil => exact h
  | cons e es ih =>
    exact ih (h.step (hes e List.mem_cons_self)) fun e' he' => hes e' (List.mem_cons_of_mem _ he')

end Cluster

/-! ### Centers -/

namespace PeerView

/-- A node has no center, or its center is the only record on that side, is local and goes by another
name. -/
def ReportsTo (v : PeerView) : Option Identity → Prop
  | none => ∀ key, v.center.get? key = none
  | some center => center.name ≠ v.this.name ∧
      (∃ node, v.center.get? center.name = some node ∧ node.identity = center ∧ node.isLocal = true) ∧
      ∀ key, key ≠ center.name → v.center.get? key = none

/-- A contact with the center does not replace it. -/
lemma ReportsTo.update {v v' : PeerView} {center : Option Identity} (h : v.ReportsTo center)
    (hthis : v'.this = v.this) (name : String) (outcome : Except CallError News) (now : Instant)
    (hcenter : v'.center = v.center.update name (Contact.settled outcome now)) : v'.ReportsTo center := by
  have hnone : ∀ key, v.center.get? key = none → v'.center.get? key = none := by
    intro key hget
    rw [hcenter, Roster.get?_update, hget, Option.map_none, ite_self]
  cases center with
  | none => exact fun key => hnone key (h key)
  | some center =>
    obtain ⟨hname, ⟨node, hget, hid, hlocal⟩, hother⟩ := h
    refine ⟨by rwa [hthis], ?_, fun key hkey => hnone key (hother key hkey)⟩
    rw [hcenter, Roster.get?_update, hget]
    by_cases hkey : name = center.name
    · rw [if_pos hkey]
      exact ⟨_, rfl, by rwa [Contact.identity_settled], by rwa [Contact.isLocal_settled]⟩
    · rw [if_neg hkey]
      exact ⟨node, rfl, hid, hlocal⟩

end PeerView

/-! ### Building -/

namespace Roster

variable {this : Identity} {r r' : Roster} {now : Instant}

lemma isPeerOf_of_firstFault? {entries : List StaticNode}
    (h : StaticNode.firstFault? this entries = none) :
    ∀ e ∈ entries, (e.identity this).IsPeerOf this := by
  induction entries with
  | nil => exact nofun
  | cons e entries ih =>
    unfold StaticNode.firstFault? at h
    split at h
    · cases h
    · rename_i hfault
      intro e' he'
      rcases List.mem_cons.1 he' with rfl | he'
      · exact StaticNode.isPeerOf_of_fault? hfault
      · exact ih h e' he'

/-- A list that is loaded leaves the records in order. -/
lemma InOrder.loadEntries {entries : List StaticNode} (h : r.InOrder this)
    (hload : r.loadEntries entries this now = .ok r') : r'.InOrder this := by
  obtain ⟨hfault, rfl⟩ := loadEntries_eq_ok_iff.1 hload
  intro key node hget
  rcases get?_placeStatic hget with hold | ⟨e, he, rfl, rfl⟩
  · exact h key node hold
  · exact .fixed (isPeerOf_of_firstFault? hfault e he) now

end Roster

variable {σ : Type}

namespace Settings

variable {s : Settings σ} {now : Instant} {n : EndNode σ}

/-- A node starts with its records in order. -/
lemma inOrder_build (h : s.build now = .ok n) : n.view.cluster.InOrder s.this := by
  obtain ⟨nodes, hpeers, hview⟩ := exists_placeCenter_of_build h
  obtain ⟨hcluster, -⟩ := descends_placeCenter hview
  rw [hcluster]
  refine ⟨rfl, ?_⟩
  have hempty : Roster.empty.InOrder s.this := fun key node hget => by
    rw [Roster.get?_empty] at hget
    cases hget
  obtain ⟨first, hstatic, rfl | ⟨entries, hstore⟩⟩ := exists_loadEntries_of_loadPeers hpeers
  · exact hempty.loadEntries hstatic
  · exact (hempty.loadEntries hstatic).loadEntries hstore

/-- A node starts with the center of its settings. -/
lemma reportsTo_build (h : s.build now = .ok n) : n.this = s.this ∧ n.view.ReportsTo s.center := by
  obtain ⟨nodes, -, hview⟩ := exists_placeCenter_of_build h
  rw [EndNode.this]
  obtain ⟨hcenter, hview⟩ | ⟨center, hcenter, hname, hview⟩ := setCenter_of_placeCenter hview
  · rw [hcenter, hview]
    exact ⟨rfl, Roster.get?_empty⟩
  · rw [hcenter, hview]
    have hget (key : String) : (PeerView.setCenter
        { PeerView.new s.this s.clusterToken with cluster.nodes := nodes } center now).center.get? key =
          if center.name = key then some (.fixed center now) else none := by
      rw [PeerView.setCenter, Roster.get?_insert]
      rfl
    refine ⟨rfl, hname, ⟨.fixed center now, ?_, rfl, rfl⟩, fun key hkey => ?_⟩
    · rw [hget, if_pos rfl]
    · rw [hget, if_neg (Ne.symm hkey)]

end Settings

/-! ### Runs -/

namespace Running

/-- The event is none of those that look at nothing: a list of peers without addresses, or another
center. -/
def Event.IsOrdinary : Event → Prop
  | .merge peers _ => ∀ peer ∈ peers, peer.HasAddress
  | .setCenter _ _ => False
  | _ => True

variable {r : Running σ}

/-- Whom a merge accepts is a peer of the node, if it has an address. -/
lemma isPeerOf_of_accepts {peer : Identity} (h : r.node.view.accepts peer = true)
    (haddress : peer.HasAddress) : peer.IsPeerOf r.node.this := by
  simp only [PeerView.accepts, Bool.and_eq_true, bne_iff_ne, beq_iff_eq] at h
  exact ⟨h.1.1, h.1.2, haddress⟩

/-- An ordinary event brings no record that is not in order. -/
lemma Causes.isOrderly {e : Event} {e' : Cluster.Event} (h : r.Causes e e') (he : e.IsOrdinary) :
    e'.IsOrderly r.node.this := by
  cases h with
  | isolate | heartbeat | authenticate | settle | evict | erase => trivial
  | register => rfl
  | tell houtcome hpeer haccepts =>
    exact isPeerOf_of_accepts haccepts (Contact.hasAddress_of_news houtcome _ hpeer)
  | merge hpeer haccepts => exact isPeerOf_of_accepts haccepts (he _ hpeer)
  | promote hfault => exact fun node hnode => hnode.promote _
  | store hfault => exact .fixed (StaticNode.isPeerOf_of_fault? hfault) _

/-- What a node keeps in order: its peers, and its center. -/
structure InOrder (this : Identity) (center : Option Identity) (r : Running σ) : Prop where
  this_eq : r.node.this = this
  cluster : r.node.view.cluster.InOrder this
  reportsTo : r.node.view.ReportsTo center

variable {this : Identity} {center : Option Identity}

lemma inOrder_start {s : Settings σ} {built : Instant} {n : EndNode σ} (h : s.build built = .ok n) :
    (start n).InOrder s.this s.center := by
  obtain ⟨hthis, hcenter⟩ := Settings.reportsTo_build h
  exact ⟨hthis, Settings.inOrder_build h, hcenter⟩

variable [ProxyEngine σ] [CertManager σ]

/-- An ordinary event keeps a node in order. -/
lemma InOrder.step {e : Event} (h : r.InOrder this center) (he : e.IsOrdinary) :
    (r.step e).InOrder this center := by
  refine ⟨(r.this_step e).trans h.this_eq, ?_, ?_⟩
  · obtain ⟨es, hcauses, hcluster⟩ := r.comesDown e
    rw [hcluster]
    apply h.cluster.run
    intro e' he'
    exact h.this_eq ▸ (hcauses e' he').isOrderly he
  · have hcenter : ∀ center now, e ≠ .setCenter center now := by
      rintro center now rfl
      exact he
    rcases r.center_step hcenter with hsame | ⟨name, outcome, now, hupdate⟩
    · have hview : (r.step e).node.view.center = r.node.view.center := hsame
      have hreports := h.reportsTo
      unfold PeerView.ReportsTo at hreports ⊢
      rw [hview]
      rwa [show (r.step e).node.view.this = r.node.view.this from r.this_step e]
    · exact h.reportsTo.update (r.this_step e) name outcome now hupdate

lemma InOrder.run {es : List Event} (h : r.InOrder this center) (hes : ∀ e ∈ es, e.IsOrdinary) :
    (r.run es).InOrder this center := by
  induction es generalizing r with
  | nil => exact h
  | cons e es ih =>
    exact ih (h.step (hes e List.mem_cons_self)) fun e' he' => hes e' (List.mem_cons_of_mem _ he')

/-- Whatever happens to a node that was built, every record of a peer is stored under the name of the
peer, which is not the node's own, is about a node of the same cluster that can be reached, and comes with
the time of a signal if it has a token; and the center is the one that the node was built with, if any. -/
theorem inOrder_of_build {s : Settings σ} {built : Instant} {n : EndNode σ} (hbuild : s.build built = .ok n)
    (es : List Event) (hes : ∀ e ∈ es, e.IsOrdinary) :
    let later := ((start n).run es).node
    later.this = s.this ∧
      (∀ key node, later.view.cluster.nodes.get? key = some node → node.InOrder s.this key) ∧
      later.view.ReportsTo s.center := by
  intro later
  have horder : ((start n).run es).InOrder s.this s.center := (inOrder_start hbuild).run hes
  exact ⟨horder.this_eq, horder.cluster.nodes, horder.reportsTo⟩

def subordinate : Settings Unconfigured := { pair with center := some ⟨"hub", "10.0.0.9", 5000, "prod"⟩ }

/-- The peer has granted a token and another peer was added; the records of both are in order. -/
theorem inOrder_of_build_with_center :
    let es : List Event :=
      [.plan .peers, .land 0 0 (some grant) 1, .addLocal ⟨"y", "10.0.0.4", 5000⟩ 2, .evict 3]
    subordinate.build 0 = .ok (subordinate.built 0) ∧ (∀ e ∈ es, e.IsOrdinary) ∧
      (∃ x, ((start (subordinate.built 0)).run es).node.view.cluster.nodes.get? "x" = some x ∧
        x.outToken = "t" ∧ x.InOrder subordinate.this "x") ∧
      (∃ y, ((start (subordinate.built 0)).run es).node.view.cluster.nodes.get? "y" = some y ∧
        y.InOrder subordinate.this "y") ∧
      ((start (subordinate.built 0)).run es).node.view.ReportsTo subordinate.center := by
  intro es
  have hbuild : subordinate.build 0 = .ok (subordinate.built 0) :=
    Settings.build_eq_ok (by decide +kernel)
  have hes : ∀ e ∈ es, e.IsOrdinary := by simp [es, Event.IsOrdinary]
  let x : Identity := ⟨"x", "10.0.0.2", 5000, "prod"⟩
  have hplace : ((start (subordinate.built 0)).step (.plan .peers)).flights[0]? =
      some ⟨.peers, .fixed x 0⟩ := by decide +kernel
  have hlater : ((start (subordinate.built 0)).run es).node.view.cluster.nodes.get? "x" =
        some { Node.fixed x 0 with outToken := "t", reportedAt := some 1 } ∧
      ((start (subordinate.built 0)).run es).node.view.cluster.nodes.get? "y" =
        some (.fixed ⟨"y", "10.0.0.4", 5000, "prod"⟩ 2) := by
    rw [run_cons, run_cons,
      step_land_grant hplace (by decide +kernel) (by decide +kernel) (by decide +kernel)]
    decide +kernel
  obtain ⟨hx, hy⟩ := hlater
  obtain ⟨-, hpeers, hcenter⟩ := inOrder_of_build hbuild es hes
  exact ⟨hbuild, hes, ⟨_, hx, rfl, hpeers "x" _ hx⟩, ⟨_, hy, hpeers "y" _ hy⟩, hcenter⟩

end Running

end Flotilla
