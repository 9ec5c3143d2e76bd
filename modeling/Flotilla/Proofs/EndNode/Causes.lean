import Flotilla.Proofs.Service.Handling

/-!
# What a node's events are to its cluster

Whatever happens to a node, its cluster goes through events of its own: a call that is served is a
registration, a heartbeat, an authentication or an isolation, a list of peers is learned peer by peer, and
a contact is settled.  `Causes` lists what an event of a node may come down to, so that what the events of
a cluster keep is kept by the events of a node.
-/

namespace Flotilla

open Rpc (Answer CallError Method Request)

/-! ### Lists of peers -/

namespace PeerView

lemma accepts_of_cluster (v : PeerView) (c : Cluster) :
    ({ v with cluster := c } : PeerView).accepts = v.accepts := rfl

/-- A peer that is accepted is inserted into the cluster; another one changes nothing. -/
lemma fst_mergePeer (v : PeerView × ℕ) (peer : Identity) (now : Instant) :
    (mergePeer now v peer).1 =
      if v.1.accepts peer = true then { v.1 with cluster := (v.1.cluster.step (.learn peer now)).1 }
      else v.1 := by
  rw [mergePeer]
  split_ifs with haccepts
  · simp only [Cluster.step, Roster.insertIfAbsent]
    cases v.1.cluster.nodes.insertIfAbsent? peer.name (.new peer now) <;> rfl
  · rfl

/-- A merge learns the peers that are accepted, one after the other. -/
lemma fst_mergePeers (v : PeerView) (peers : List Identity) (now : Instant) :
    (v.mergePeers peers now).1 =
      { v with cluster := v.cluster.run ((peers.filter v.accepts).map (.learn · now)) } := by
  suffices h : ∀ v' : PeerView × ℕ, (peers.foldl (mergePeer now) v').1 =
      { v'.1 with cluster := v'.1.cluster.run ((peers.filter v'.1.accepts).map (.learn · now)) } from
    h (v, 0)
  induction peers with
  | nil => exact fun v' => rfl
  | cons peer peers ih =>
    intro v'
    have hstep := fst_mergePeer v' peer now
    rw [List.foldl_cons, ih, hstep]
    by_cases haccepts : v'.1.accepts peer = true
    · rw [if_pos haccepts, List.filter_cons_of_pos haccepts, List.map_cons, Cluster.run_cons,
        accepts_of_cluster]
    · rw [if_neg haccepts, List.filter_cons_of_neg haccepts]

lemma accepts_updateSide (v : PeerView) (side : Side) (name : String) (f : Node → Node) :
    (v.updateSide side name f).accepts = v.accepts := by
  funext peer
  cases side with
  | peers => rfl
  | center =>
    simp only [updateSide, accepts, Roster.contains_eq_isSome, Roster.get?_update]
    split_ifs <;> simp

/-- The record of a peer is settled first, unless it is the center; then the peers are learned that the
contact brought. -/
lemma cluster_settle (v : PeerView) (c : Contact) (outcome : Except CallError News) (now : Instant) :
    (v.settle c outcome now).cluster =
      v.cluster.run ((if c.side = .peers then [.settle c.node.name outcome now] else []) ++
        ((outcome.toOption.elim [] (·.peers)).filter v.accepts).map (.learn · now)) := by
  rw [settle_eq, fst_mergePeers, accepts_updateSide, Cluster.run_append]
  cases c.side <;> rfl

/-- The cluster of a node authenticates the sender of an operation, or it does nothing. -/
lemma cluster_serveOperation {σ : Type} [ProxyEngine σ] [CertManager σ]
    (v : PeerView) (engine : σ) (o : Operation) (e : Envelope) (now : Instant) :
    (v.serveOperation engine o e now).1.cluster = v.cluster ∨
      ∃ who token, (v.serveOperation engine o e now).1.cluster = (v.cluster.authenticate who token now).1 := by
  cases htoken : v.issuedToken? e.sender with
  | none =>
    left
    simp only [serveOperation, htoken]
  | some token =>
    cases hopen : Request.open? token (.operate o) e with
    | error fault =>
      left
      simp only [serveOperation, htoken, hopen]
    | ok r =>
      have hview : (v.serveOperation engine o e now).1 = (v.authenticateSender e.sender r now).1 := by
        simp only [serveOperation, htoken, hopen]
        generalize v.authenticateSender e.sender r now = x
        obtain ⟨v', fault | node⟩ := x <;> rfl
      rw [hview, authenticateSender]
      cases presented e.sender r with
      | error fault => exact .inl rfl
      | ok claim => exact .inr ⟨claim.1, claim.2, rfl⟩

end PeerView

/-! ### Replies -/

/-- A peer that a contact brings can be reached. -/
lemma Contact.hasAddress_of_news {clusterToken : String} {m : Method} {rpcTimeout : Span}
    {answer : Option Answer} {news : News} (h : outcome clusterToken m rpcTimeout answer = .ok news) :
    ∀ peer ∈ news.peers, peer.HasAddress := by
  obtain ⟨r, -, hnews⟩ := exists_of_bind_eq_ok h
  unfold Contact.news at hnews
  split at hnews
  · split_ifs at hnews
    cases hnews
    exact fun peer hpeer => absurd hpeer List.not_mem_nil
  · split_ifs at hnews
    cases hnews
    intro peer hpeer
    obtain ⟨w, -, hw⟩ := List.mem_filterMap.1 hpeer
    cases hid : w.toIdentity with
    | error fault =>
      rw [hid] at hw
      cases hw
    | ok who =>
      rw [hid] at hw
      cases hw
      exact (toIdentity_eq_ok_iff.1 hid).2
  · cases hnews

/-! ### Edits -/

/-- A peer is made local in place if it is known by this identity, and else a new record is stored. -/
lemma Cluster.exists_run_placeLocal (c : Cluster) (identity : Identity) (now : Instant) :
    ∃ es : List Cluster.Event,
      (∀ e ∈ es, e = .replace identity.name (fun node => (Roster.promote identity node).1) ∨
        e = .store identity.name (.fixed identity now)) ∧
      { c with nodes := c.nodes.placeLocal identity now } = c.run es := by
  cases hget : c.nodes.get? identity.name with
  | none =>
    refine ⟨[.store identity.name (.fixed identity now)], by simp, ?_⟩
    simp only [Roster.placeLocal, Roster.promote?, Roster.modify?_eq_none_iff.2 hget, run_cons, run_nil,
      step]
  | some node =>
    have hupdate (f : Node → Node) :
        c.nodes.update identity.name f = c.nodes.insert identity.name (f node) := by
      simp only [Roster.update, Roster.modify?_of_get? _ hget]
    by_cases hid : node.identity = identity
    · refine ⟨[.replace identity.name fun node => (Roster.promote identity node).1], by simp, ?_⟩
      simp only [Roster.placeLocal, Roster.promote?, Roster.modify?_of_get? _ hget, run_cons, run_nil, step,
        hupdate, Roster.promote, hid, if_true]
    · -- the look at the record counts as a change, although it leaves the record as it is
      refine ⟨[.replace identity.name fun node => (Roster.promote identity node).1,
        .store identity.name (.fixed identity now)], by simp, ?_⟩
      simp only [Roster.placeLocal, Roster.promote?, Roster.modify?_of_get? _ hget, run_cons, run_nil, step,
        hupdate, Roster.promote, hid, if_false]

variable {σ : Type}

namespace EndNode

variable (n : EndNode σ)

/-- Adding a static peer touches the nodes of the cluster only. -/
lemma exists_view_addLocal (entry : StaticNode) (now : Instant) :
    ∃ nodes, (n.addLocal entry now).1.view = { n.view with cluster.nodes := nodes } := by
  have hview := n.view_editStore (·.addStatic entry)
  unfold addLocal
  split
  · exact ⟨n.view.cluster.nodes, rfl⟩
  · generalize n.editStore (·.addStatic entry) = x at hview ⊢
    obtain ⟨n', fault | u⟩ := x
    · exact ⟨n.view.cluster.nodes, hview⟩
    · rw [← hview]
      exact ⟨_, rfl⟩

lemma exists_view_deleteNode (name : String) :
    ∃ nodes, (n.deleteNode name).1.view = { n.view with cluster.nodes := nodes } := by
  have hview := n.view_editStore (·.removeStatic name)
  unfold deleteNode
  generalize n.editStore (·.removeStatic name) = x at hview ⊢
  obtain ⟨n', fault | u⟩ := x
  · exact ⟨n.view.cluster.nodes, hview⟩
  · rw [← hview]
    exact ⟨_, rfl⟩

/-- The center is not touched by a request, whatever it asks. -/
lemma center_serve [ProxyEngine σ] [CertManager σ] (m : Method) (e : Envelope) (fresh : String)
    (now : Instant) : (n.serve m e fresh now).1.view.center = n.view.center := by
  cases m with
  | register | heartbeat => rfl
  | operate o => exact n.view.center_serveOperation now n.engine o e

end EndNode

namespace Running

variable [ProxyEngine σ] [CertManager σ]

/-! ### What is fixed -/

/-- No event changes who the node is. -/
lemma this_step (r : Running σ) (e : Event) : (r.step e).node.this = r.node.this := by
  cases e with
  | serve m e fresh now => exact congrArg Prod.fst (r.node.setting_serve m e fresh now)
  | land place called answer now =>
    cases hplace : r.flights[place]? with
    | none => simp only [step, hplace]
    | some c =>
      rw [step_land hplace rfl]
      exact congrArg Prod.fst (r.node.view.setting_settle c _ now)
  | merge peers now => exact r.node.view.this_mergePeers peers now
  | addLocal entry now =>
    obtain ⟨nodes, hview⟩ := r.node.exists_view_addLocal entry now
    simp only [step, EndNode.this, hview]
  | deleteNode name =>
    obtain ⟨nodes, hview⟩ := r.node.exists_view_deleteNode name
    simp only [step, EndNode.this, hview]
  | plan | evict | setCenter => rfl

/-- Unless it is replaced, the center of a node changes by the end of a contact only. -/
lemma center_step (r : Running σ) {e : Event} (h : ∀ center now, e ≠ .setCenter center now) :
    (r.step e).roster .center = r.roster .center ∨
      ∃ name outcome now, (r.step e).roster .center =
        (r.roster .center).update name (Contact.settled outcome now) := by
  cases e with
  | serve m e fresh now => exact .inl (r.node.center_serve m e fresh now)
  | land place called answer now =>
    cases hplace : r.flights[place]? with
    | none =>
      left
      simp only [step, hplace]
    | some c =>
      have hview : (r.step (.land place called answer now)).node.view =
          r.node.view.settle c (r.outcome c called answer) now := by
        rw [step_land hplace rfl]
      obtain ⟨nodes, hmerge⟩ := PeerView.exists_mergePeers_eq
        (r.node.view.updateSide c.side c.node.name (Contact.settled (r.outcome c called answer) now))
        ((r.outcome c called answer).toOption.elim [] (·.peers)) now
      rw [roster, roster, hview, PeerView.settle_eq, hmerge]
      cases c.side with
      | peers => exact .inl rfl
      | center => exact .inr ⟨c.node.name, _, now, rfl⟩
  | merge peers now =>
    obtain ⟨nodes, hmerge⟩ := r.node.view.exists_mergePeers_eq peers now
    left
    simp only [step, roster, PeerView.roster, hmerge]
  | addLocal entry now =>
    obtain ⟨nodes, hview⟩ := r.node.exists_view_addLocal entry now
    left
    simp only [step, roster, PeerView.roster, hview]
  | deleteNode name =>
    obtain ⟨nodes, hview⟩ := r.node.exists_view_deleteNode name
    left
    simp only [step, roster, PeerView.roster, hview]
  | plan | evict => exact .inl rfl
  | setCenter center now => exact absurd rfl (h center now)

/-! ### Causes -/

/-- What an event of a node may come down to for its cluster. -/
inductive Causes (r : Running σ) : Event → Cluster.Event → Prop
  | isolate {e : Envelope} {fresh : String} {now : Instant} :
      Causes r (.serve .register e fresh now) (.isolate ⟨e.sender, "", 0, e.cluster⟩ now)
  | register {e : Envelope} {fresh token : String} {now : Instant} {request : Request} {who : Identity}
      (hopen : Request.open? r.node.view.cluster.token .register e = .ok request)
      (hclaim : claimOf request = .ok (who, token)) :
      Causes r (.serve .register e fresh now) (.register who token r.node.this.name fresh now)
  | heartbeat {e : Envelope} {fresh : String} {now : Instant} (who : Identity) (token : String) :
      Causes r (.serve .heartbeat e fresh now) (.heartbeat who token now)
  | authenticate {o : Operation} {e : Envelope} {fresh : String} {now : Instant} (who : Identity)
      (token : String) : Causes r (.serve (.operate o) e fresh now) (.authenticate who token now)
  | settle {place : ℕ} {called now : Instant} {answer : Option Answer} {c : Contact}
      (hplace : r.flights[place]? = some c) (hside : c.side = .peers) :
      Causes r (.land place called answer now) (.settle c.node.name (r.outcome c called answer) now)
  | tell {place : ℕ} {called now : Instant} {answer : Option Answer} {c : Contact} {news : News}
      {peer : Identity} (houtcome : r.outcome c called answer = .ok news) (hpeer : peer ∈ news.peers)
      (haccepts : r.node.view.accepts peer = true) :
      Causes r (.land place called answer now) (.learn peer now)
  | merge {peers : List Identity} {now : Instant} {peer : Identity} (hpeer : peer ∈ peers)
      (haccepts : r.node.view.accepts peer = true) : Causes r (.merge peers now) (.learn peer now)
  | evict (now : Instant) : Causes r (.evict now) (.evict now)
  | promote {entry : StaticNode} {now : Instant} (hfault : entry.fault? r.node.this = none) :
      Causes r (.addLocal entry now)
        (.replace entry.name fun node => (Roster.promote (entry.identity r.node.this) node).1)
  | store {entry : StaticNode} {now : Instant} (hfault : entry.fault? r.node.this = none) :
      Causes r (.addLocal entry now) (.store entry.name (.fixed (entry.identity r.node.this) now))
  | erase (name : String) : Causes r (.deleteNode name) (.erase name)

variable (r : Running σ)

/-- The cluster of a node goes through events that the event of the node comes down to. -/
def ComesDown (e : Event) : Prop :=
  ∃ es : List Cluster.Event, (∀ e' ∈ es, r.Causes e e') ∧
    (r.step e).node.view.cluster = r.node.view.cluster.run es

variable {r}

lemma ComesDown.of_eq {e : Event} (h : (r.step e).node.view.cluster = r.node.view.cluster) :
    r.ComesDown e :=
  ⟨[], nofun, h⟩

/-- A step that has a cause comes down to it. -/
lemma ComesDown.of_step {e : Event} {e' : Cluster.Event} (hcauses : r.Causes e e')
    (h : (r.step e).node.view.cluster = (r.node.view.cluster.step e').1) : r.ComesDown e :=
  ⟨[e'], by simpa using hcauses, h⟩

/-- A call that is served comes down to one event of the cluster, if to any. -/
lemma serve_cases (r : Running σ) (m : Method) (e : Envelope) (fresh : String) (now : Instant) :
    (r.step (.serve m e fresh now)).node.view.cluster = r.node.view.cluster ∨
      ∃ e', r.Causes (.serve m e fresh now) e' ∧
        (r.step (.serve m e fresh now)).node.view.cluster = (r.node.view.cluster.step e').1 := by
  cases m with
  | register =>
    have hcluster : (r.step (.serve .register e fresh now)).node.view.cluster =
        (r.node.view.cluster.serveRegister r.node.this.name e fresh now).1 := rfl
    cases hopen : Request.open? r.node.view.cluster.token .register e with
    | error fault =>
      refine .inr ⟨_, .isolate, ?_⟩
      rw [hcluster, Cluster.serveRegister_of_sealed hopen]
      rfl
    | ok request =>
      rw [Cluster.serveRegister_of_opened hopen] at hcluster
      cases hclaim : claimOf request with
      | error fault =>
        left
        rw [hcluster, Cluster.answerRegister_of_error hclaim]
      | ok claim =>
        refine .inr ⟨_, .register hopen hclaim, ?_⟩
        rw [hcluster, Cluster.answerRegister_of_ok hclaim]
        rfl
  | heartbeat =>
    have hcluster : (r.step (.serve .heartbeat e fresh now)).node.view.cluster =
        (r.node.view.cluster.serveHeartbeat r.node.this.name e now).1 := rfl
    cases hopen : Request.open? r.node.view.cluster.token .heartbeat e with
    | error fault =>
      left
      rw [hcluster, Cluster.serveHeartbeat_of_sealed hopen]
    | ok request =>
      rw [Cluster.serveHeartbeat_of_opened hopen] at hcluster
      cases hclaim : claimOf request with
      | error fault =>
        left
        rw [hcluster, Cluster.answerHeartbeat_of_error hclaim]
      | ok claim =>
        refine .inr ⟨_, .heartbeat claim.1 claim.2, ?_⟩
        rw [hcluster, Cluster.answerHeartbeat_of_ok hclaim]
        rfl
  | operate o =>
    rcases r.node.view.cluster_serveOperation r.node.engine o e now with hsame | ⟨who, token, hauth⟩
    · exact .inl hsame
    · exact .inr ⟨_, .authenticate who token, hauth⟩

/-- The end of a contact comes down to updates and merges. -/
lemma comesDown_land (place : ℕ) (called : Instant) (answer : Option Answer) (now : Instant) :
    r.ComesDown (.land place called answer now) := by
  cases hplace : r.flights[place]? with
  | none =>
    apply ComesDown.of_eq
    simp only [step, hplace]
  | some c =>
    have hview : (r.step (.land place called answer now)).node.view =
        r.node.view.settle c (r.outcome c called answer) now := by
      rw [step_land hplace rfl]
    refine ⟨_, ?_, (congrArg PeerView.cluster hview).trans (r.node.view.cluster_settle c _ now)⟩
    intro e' he'
    rcases List.mem_append.1 he' with hsettle | hlearn
    · split_ifs at hsettle with hside
      · exact List.mem_singleton.1 hsettle ▸ .settle hplace hside
      · cases hsettle
    · obtain ⟨peer, hpeer, rfl⟩ := List.mem_map.1 hlearn
      obtain ⟨hmem, haccepts⟩ := List.mem_filter.1 hpeer
      cases houtcome : r.outcome c called answer with
      | error fault =>
        rw [houtcome] at hmem
        cases hmem
      | ok news =>
        rw [houtcome] at hmem
        exact .tell houtcome hmem haccepts

/-- A static peer that is added comes down to an edit of the record under its name. -/
lemma comesDown_addLocal (entry : StaticNode) (now : Instant) : r.ComesDown (.addLocal entry now) := by
  have hview := r.node.view_editStore (·.addStatic entry)
  have hstep : (r.step (.addLocal entry now)).node = (r.node.addLocal entry now).1 := rfl
  unfold EndNode.addLocal at hstep
  cases hfault : entry.fault? r.node.this with
  | some fault =>
    apply ComesDown.of_eq
    rw [hstep, hfault]
  | none =>
    simp only [hfault] at hstep
    generalize r.node.editStore (·.addStatic entry) = x at hview hstep
    obtain ⟨n, fault | u⟩ := x
    · apply ComesDown.of_eq
      rw [hstep, hview]
    · simp only at hstep hview
      have hthis : n.this = r.node.this := congrArg PeerView.this hview
      rw [hview, hthis] at hstep
      obtain ⟨es, hes, hrun⟩ := r.node.view.cluster.exists_run_placeLocal (entry.identity r.node.this) now
      refine ⟨es, ?_, ?_⟩
      · intro e' he'
        rcases hes e' he' with rfl | rfl
        · exact .promote hfault
        · exact .store hfault
      · rw [hstep]
        exact hrun

lemma comesDown_deleteNode (name : String) : r.ComesDown (.deleteNode name) := by
  have hview := r.node.view_editStore (·.removeStatic name)
  have hstep : (r.step (.deleteNode name)).node = (r.node.deleteNode name).1 := rfl
  unfold EndNode.deleteNode at hstep
  generalize r.node.editStore (·.removeStatic name) = x at hview hstep
  obtain ⟨n, fault | u⟩ := x
  · apply ComesDown.of_eq
    rw [hstep, hview]
  · simp only at hstep hview
    apply ComesDown.of_step (.erase name)
    rw [hstep, hview]
    rfl

/-- Every event of a node comes down to events of its cluster. -/
theorem comesDown (r : Running σ) (e : Event) : r.ComesDown e := by
  cases e with
  | serve m e fresh now =>
    rcases r.serve_cases m e fresh now with hsame | ⟨e', hcauses, hstep⟩
    · exact .of_eq hsame
    · exact .of_step hcauses hstep
  | land place called answer now => exact comesDown_land place called answer now
  | addLocal entry now => exact comesDown_addLocal entry now
  | deleteNode name => exact comesDown_deleteNode name
  | plan | setCenter => exact .of_eq rfl
  | evict now => exact .of_step (.evict now) rfl
  | merge peers now =>
    refine ⟨(peers.filter r.node.view.accepts).map (.learn · now), ?_, ?_⟩
    · intro e' he'
      obtain ⟨peer, hpeer, rfl⟩ := List.mem_map.1 he'
      obtain ⟨hmem, haccepts⟩ := List.mem_filter.1 hpeer
      exact .merge hmem haccepts
    · exact congrArg PeerView.cluster (r.node.view.fst_mergePeers peers now)

end Running

end Flotilla
