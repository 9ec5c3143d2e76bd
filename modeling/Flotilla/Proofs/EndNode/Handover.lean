import Flotilla.Proofs.EndNode.Causes

/-!
# What a heartbeat hands over

A heartbeat that succeeds is answered with the live peers of the node that was asked.  On their way to the
one who asks they are listed, sealed, opened and read; then they are merged into its roster.  No live peer
is lost on that way, and nobody else comes along.
-/

namespace Flotilla

open Rpc (Answer CallError Method Reply Request)

/-! ### Records in their places -/

/-- A record of a cluster is stored under the name of its peer, which belongs to the cluster and can be
reached. -/
structure Node.Placed (cluster key : String) (node : Node) : Prop where
  name_eq : node.name = key
  cluster_eq : node.identity.cluster = cluster
  hasAddress : node.identity.HasAddress

/-- All records are in their places. -/
def Roster.Placed (cluster : String) (r : Roster) : Prop :=
  ∀ key node, r.get? key = some node → node.Placed cluster key

/-! ### Merging -/

namespace PeerView

/-- Under a name that is free a merge stores the first peer of that name that is accepted. -/
lemma get?_mergePeers_eq (v : PeerView) (peers : List Identity) (now : Instant) (key : String) :
    (v.mergePeers peers now).1.cluster.nodes.get? key =
      (v.cluster.nodes.get? key).or
        ((peers.find? fun peer => v.accepts peer && peer.name == key).map (.new · now)) := by
  suffices h : ∀ v' : PeerView × ℕ, (peers.foldl (mergePeer now) v').1.cluster.nodes.get? key =
      (v'.1.cluster.nodes.get? key).or
        ((peers.find? fun peer => v'.1.accepts peer && peer.name == key).map (.new · now)) from h (v, 0)
  induction peers with
  | nil => exact fun v' => (Option.or_none).symm
  | cons peer peers ih =>
    intro v'
    have haccepts : (mergePeer now v' peer).1.accepts = v'.1.accepts := by
      rw [fst_mergePeer]
      split_ifs <;> rfl
    rw [List.foldl_cons, ih, haccepts, get?_mergePeer, List.find?_cons]
    by_cases hpeer : v'.1.accepts peer = true ∧ peer.name = key
    · have htaken : (v'.1.accepts peer && peer.name == key) = true := by simpa using hpeer
      rw [if_pos hpeer, htaken]
      cases v'.1.cluster.nodes.get? key <;> rfl
    · have hleft : (v'.1.accepts peer && peer.name == key) = false := by simpa using hpeer
      rw [if_neg hpeer, hleft]

variable {v : PeerView} {now : Instant}

/-- A peer that may be taken up is known after the merge. -/
lemma exists_get?_mergePeers {peers : List Identity} {peer : Identity} (hpeer : peer ∈ peers)
    (haccepts : v.accepts peer = true) :
    ∃ node, (v.mergePeers peers now).1.cluster.nodes.get? peer.name = some node := by
  rw [get?_mergePeers_eq]
  cases v.cluster.nodes.get? peer.name with
  | some node => exact ⟨node, rfl⟩
  | none =>
    have hfound : (peers.find? fun p => v.accepts p && p.name == peer.name).isSome = true :=
      List.find?_isSome.2 ⟨peer, hpeer, by simp [haccepts]⟩
    obtain ⟨first, hfirst⟩ := Option.isSome_iff_exists.1 hfound
    rw [hfirst]
    exact ⟨_, rfl⟩

/-- What a node has taken up once it has merged a list of peers: whoever is on it, unless the node itself or
its center goes by that name, and nobody else.  The records that were there stay as they were. -/
structure TakesUp (v : PeerView) (peers : List Identity) (now : Instant) (later : PeerView) : Prop where
  taken : ∀ peer ∈ peers, peer.name ≠ v.this.name → v.center.contains peer.name = false →
    ∃ node, later.cluster.nodes.get? peer.name = some node
  kept : ∀ key node, v.cluster.nodes.get? key = some node → later.cluster.nodes.get? key = some node
  added : ∀ key node, v.cluster.nodes.get? key = none → later.cluster.nodes.get? key = some node →
    key = node.name ∧ node.identity ∈ peers ∧ node.inToken = "" ∧ node.outToken = "" ∧
      node.isLocal = false ∧ ∀ t, node.isValidAt t = true ↔ t < now + (heartbeatTimeout : Int)

/-- A node takes up all peers of its own cluster that it is told of. -/
lemma takesUp_mergePeers {peers : List Identity} (h : ∀ peer ∈ peers, peer.cluster = v.this.cluster)
    (now : Instant) : v.TakesUp peers now (v.mergePeers peers now).1 where
  taken := by
    intro peer hpeer hname hcenter
    apply exists_get?_mergePeers hpeer
    simp [accepts, hname, hcenter, h peer hpeer]
  kept := fun key node hget => get?_mergePeers_of_some hget peers
  added := by
    intro key node hnone hget
    rcases get?_mergePeers hget with hold | ⟨-, peer, hpeer, hname, rfl⟩
    · rw [hnone] at hold
      cases hold
    · exact ⟨hname.symm, hpeer, rfl, rfl, rfl, fun t => Node.isValidAt_new_iff⟩

end PeerView

/-! ### Listing -/

/-- No two records that are in their places are about peers of one name. -/
lemma Roster.Placed.nodup_names {cluster : String} {r : Roster} (h : r.Placed cluster) :
    (r.nodes.map (·.name)).Nodup := by
  have hnames : r.nodes.map (·.name) = r.entries.keys.map id :=
    Table.map_values_eq_map_keys fun key node hget => (h key node hget).name_eq
  rw [hnames, List.map_id]
  exact Std.ExtTreeMap.nodup_keys

namespace Cluster

variable {c : Cluster} {cluster token : String} {who : Identity} {t : Instant}

/-- An authentication leaves all records in their places. -/
lemma placed_authenticate (h : c.nodes.Placed cluster) :
    (c.authenticate who token t).1.nodes.Placed cluster := by
  intro key node hget
  cases hauth : (c.authenticate who token t).2 with
  | error fault =>
    rw [get?_authenticate_of_error hauth] at hget
    exact h key node hget
  | ok heard =>
    rw [get?_authenticate_of_ok hauth] at hget
    split_ifs at hget with hkey
    · obtain ⟨known, hknown, -, rfl⟩ := authenticate_eq_ok_iff.1 hauth
      cases hget
      have hplaced := h who.name known hknown
      exact ⟨hplaced.name_eq.trans hkey, hplaced.cluster_eq, hplaced.hasAddress⟩
    · exact h key node hget

/-- To authenticate a node makes no difference to the peers that are listed for it. -/
lemma mem_peersFor_authenticate {known : Node} {peer : Identity} (h : c.nodes.Placed cluster)
    (hauth : (c.authenticate who token t).2 = .ok known) :
    peer ∈ (c.authenticate who token t).1.peersFor who.name t ↔ peer ∈ c.peersFor who.name t := by
  rw [mem_peersFor, mem_peersFor]
  constructor
  · rintro ⟨key, node, hget, hname, hrest⟩
    have hkey : who.name ≠ key := by
      rintro rfl
      exact hname (placed_authenticate h _ _ hget).name_eq
    rw [get?_authenticate_of_ok hauth, if_neg hkey] at hget
    exact ⟨key, node, hget, hname, hrest⟩
  · rintro ⟨key, node, hget, hname, hrest⟩
    have hkey : who.name ≠ key := by
      rintro rfl
      exact hname (h _ _ hget).name_eq
    refine ⟨key, node, ?_, hname, hrest⟩
    rwa [get?_authenticate_of_ok hauth, if_neg hkey]

/-- A node is told only of peers that can be reached. -/
lemma hasAddress_of_mem_peersFor {name : String} (h : c.nodes.Placed cluster) :
    ∀ peer ∈ c.peersFor name t, peer.HasAddress := by
  intro peer hpeer
  obtain ⟨key, node, hget, -, -, rfl⟩ := mem_peersFor.1 hpeer
  exact (h key node hget).hasAddress

/-- No two peers that are listed have one name. -/
lemma nodup_peersFor {name : String} (h : c.nodes.Placed cluster) :
    ((c.peersFor name t).map (·.name)).Nodup := by
  rw [peersFor, List.map_map]
  exact h.nodup_names.sublist (List.filter_sublist.map _)

end Cluster

/-- Identities with an address arrive as they were sent. -/
lemma Contact.reachable_ofIdentity {peers : List Identity} (h : ∀ peer ∈ peers, peer.HasAddress) :
    reachable (peers.map .ofIdentity) = peers := by
  induction peers with
  | nil => rfl
  | cons peer peers ih =>
    have hok : (Wire.Identity.ofIdentity peer).toIdentity = .ok peer :=
      toIdentity_eq_ok_iff.2 ⟨rfl, h peer List.mem_cons_self⟩
    have hrest : reachable (peers.map .ofIdentity) = peers :=
      ih fun p hp => h p (List.mem_cons_of_mem _ hp)
    rw [reachable] at hrest ⊢
    rw [List.map_cons, List.filterMap_cons, hok, hrest]
    rfl

namespace EndNode

variable {σ τ : Type} [ProxyEngine σ] [CertManager σ]
variable {b : EndNode σ} {who : Identity} {presented fresh : String} {t : Instant} {rpcTimeout : Span}
  {e : Envelope} {news : News} {cluster : String}

/-- A heartbeat that succeeds was authenticated, and brings the peers that the reply lists. -/
lemma exists_authenticate_of_heartbeat {call : Rpc.Call}
    (hopen : Request.open? b.view.cluster.token .heartbeat e = .ok ⟨some (.of presented who), call⟩)
    (hreply : ∀ r ∈ (b.serve .heartbeat e fresh t).2.toOption, r.Portable)
    (hnews : Contact.outcome b.view.cluster.token .heartbeat rpcTimeout
      (some (b.serve .heartbeat e fresh t).2) = .ok news) :
    ∃ node, (b.view.cluster.authenticate who presented t).2 = .ok node ∧
      news = ⟨none, Contact.reachable
        (((b.view.cluster.authenticate who presented t).1.peersFor who.name t).map .ofIdentity)⟩ := by
  rw [serve_of_heartbeat hopen] at hreply hnews
  rw [Answered.outcome_close (answers_answerHeartbeat _ _ _) (hreply _ rfl)] at hnews
  by_cases haddress : who.HasAddress
  · rw [Cluster.answerHeartbeat_of_ok (claimOf_of haddress)] at hnews
    cases hauth : (b.view.cluster.authenticate who presented t).2 with
    | error fault =>
      rw [Cluster.heartbeat_of_error hauth] at hnews
      have hnone := congrArg Except.toOption hnews
      rw [Cluster.heartbeatReply, news_heartbeat_failure (by cases fault <;> exact nofun)] at hnone
      cases hnone
    | ok node =>
      rw [Cluster.heartbeat_of_ok hauth] at hnews
      exact ⟨node, rfl, (Except.ok.inj hnews).symm⟩
  · rw [Cluster.answerHeartbeat_of_error (claimOf_of_not_hasAddress haddress)] at hnews
    have hnone := congrArg Except.toOption hnews
    rw [news_heartbeat_failure (code_ne (addressFault who)).1] at hnone
    cases hnone

/-- The reply to a heartbeat that succeeds lists the live peers of the node that was asked, the sender left
out, and each of them once. -/
lemma listed_of_heartbeat {call : Rpc.Call} (hplaced : b.view.cluster.nodes.Placed cluster)
    (hopen : Request.open? b.view.cluster.token .heartbeat e = .ok ⟨some (.of presented who), call⟩)
    (hreply : ∀ r ∈ (b.serve .heartbeat e fresh t).2.toOption, r.Portable)
    (hnews : Contact.outcome b.view.cluster.token .heartbeat rpcTimeout
      (some (b.serve .heartbeat e fresh t).2) = .ok news) :
    news.issued = none ∧ (∀ peer, peer ∈ news.peers ↔ peer ∈ b.view.cluster.peersFor who.name t) ∧
      (news.peers.map (·.name)).Nodup := by
  obtain ⟨node, hauth, rfl⟩ := exists_authenticate_of_heartbeat hopen hreply hnews
  have hplaced' : (b.view.cluster.authenticate who presented t).1.nodes.Placed cluster :=
    Cluster.placed_authenticate hplaced
  rw [Contact.reachable_ofIdentity (Cluster.hasAddress_of_mem_peersFor hplaced')]
  exact ⟨rfl, fun peer => Cluster.mem_peersFor_authenticate hplaced hauth, Cluster.nodup_peersFor hplaced'⟩

/-- A heartbeat hands over every live peer and nobody else: if it succeeds, the reply lists the peers whose
records are valid at the node that was asked, except for the one who asks, each of them once; and this node
takes them all up, whatever has happened to it since it asked. -/
theorem handsOver_of_heartbeat {a : EndNode τ} {b : EndNode σ} {c : Contact} {called t : Instant}
    {fresh : String}
    {rpcTimeout : Span} {news : News} {w : PeerView}
    (hcluster : b.this.cluster = a.this.cluster) (htoken : b.view.cluster.token = a.view.cluster.token)
    (hplaced : b.view.cluster.nodes.Placed b.this.cluster)
    (hlive : c.node.registeredRemoteAt called = true)
    (hrequest : (c.envelope a.this a.view.cluster.token called).Portable)
    (hreply : ∀ r ∈ (b.serve .heartbeat (c.envelope a.this a.view.cluster.token called) fresh t).2.toOption,
      r.Portable)
    (hnews : Contact.outcome a.view.cluster.token .heartbeat rpcTimeout
      (some (b.serve .heartbeat (c.envelope a.this a.view.cluster.token called) fresh t).2) = .ok news)
    (hsetting : w.setting = a.view.setting) (now : Instant) :
    news.issued = none ∧
      (∀ peer, peer ∈ news.peers ↔ ∃ key node, b.view.cluster.nodes.get? key = some node ∧
        node.name ≠ a.this.name ∧ node.isValidAt t = true ∧ node.identity = peer) ∧
      (news.peers.map (·.name)).Nodup ∧
      (w.updateSide c.side c.node.name (Contact.succeeded news now)).TakesUp news.peers now
        (w.settle c (.ok news) now) := by
  have hask : c.envelope a.this a.view.cluster.token called =
      (⟨some (.of c.node.outToken a.this), .heartbeat⟩ : Request).close .cluster a.view.cluster.token
        a.this.cluster a.this.name := by
    rw [Contact.envelope, Contact.request, if_pos hlive]
  rw [hask, ← htoken] at hrequest hreply hnews
  have hopen := Request.open?_close hrequest
  obtain ⟨hissued, hlisted, hnodup⟩ := listed_of_heartbeat hplaced hopen hreply hnews
  refine ⟨hissued, fun peer => (hlisted peer).trans Cluster.mem_peersFor, hnodup, ?_⟩
  have hthis : (w.updateSide c.side c.node.name (Contact.succeeded news now)).this = a.this := by
    have hw : w.this = a.this := congrArg Prod.fst hsetting
    cases c.side <;> exact hw
  apply PeerView.takesUp_mergePeers
  intro peer hpeer
  obtain ⟨key, node, hget, -, -, rfl⟩ := Cluster.mem_peersFor.1 ((hlisted peer).1 hpeer)
  rw [hthis, ← hcluster]
  exact (hplaced key node hget).cluster_eq

/-! ### A newcomer -/

namespace Newcomer

/-- A node that has just joined. -/
def self : Identity := ⟨"a", "10.0.0.1", 5000, "prod"⟩

/-- The only node that it knows. -/
def first : Identity := ⟨"b", "10.0.0.2", 5000, "prod"⟩

/-- A live peer of the other node. -/
def third : Identity := ⟨"x", "10.0.0.3", 5000, "prod"⟩

/-- A peer that the other node has not heard of for long. -/
def lost : Identity := ⟨"y", "10.0.0.4", 5000, "prod"⟩

def known : Node := { Node.new first 0 with outToken := "t", reportedAt := some 0 }

def node : EndNode Unconfigured :=
  { view := { PeerView.new self "s" with cluster.nodes := Roster.empty.insert "b" known }
    intervals := .standard
    limit := 64
    engine := ⟨⟩
    store := none }

def host : EndNode Unconfigured :=
  { view := { PeerView.new first "s" with
      cluster.nodes := ((Roster.empty.insert "a" (.registered self "t" 0)).insert "x" (.new third 0)).insert
        "y" (.new lost (-Span.seconds 60)) }
    intervals := .standard
    limit := 64
    engine := ⟨⟩
    store := none }

def heartbeat : Envelope := Contact.envelope ⟨.peers, known⟩ self "s" 0

/-- What the newcomer asks. -/
def request : Request := ⟨some (.of "t" self), .heartbeat⟩

def reply : Reply := .success (.peers [.ofIdentity third])

lemma heartbeat_eq : heartbeat = request.close .cluster "s" "prod" "a" := by
  have hlive : known.registeredRemoteAt 0 = true := by decide
  rw [heartbeat, Contact.envelope, Contact.request, if_pos hlive]
  rfl

lemma portable_heartbeat : heartbeat.Portable := by
  rw [heartbeat_eq]
  exact Envelope.portable_close_iff.2 (by decide +kernel)

lemma placed_host : host.view.cluster.nodes.Placed "prod" := by
  intro key node hget
  simp only [host, Roster.get?_insert, Roster.get?_empty] at hget
  split_ifs at hget with hy hx ha
  all_goals
    cases hget
    exact ⟨‹_›, rfl, by decide⟩

/-- The node that the newcomer knows answers with the third one. -/
lemma serve_host : (host.serve .heartbeat heartbeat "" 1).2 =
    .ok (reply.close .cluster "s" "prod" "b" .heartbeat) := by
  have hportable := portable_heartbeat
  rw [heartbeat_eq] at hportable ⊢
  have hreply : (host.view.cluster.answerHeartbeat request 1).2 = reply := by decide +kernel
  have hopen := Request.open?_close hportable
  have hserve : host.serve .heartbeat (request.close .cluster "s" "prod" "a") "" 1 = _ :=
    serve_of_heartbeat hopen
  rw [hserve, hreply]
  rfl

lemma portable_reply : ∀ e ∈ (host.serve .heartbeat heartbeat "" 1).2.toOption, e.Portable := by
  rw [serve_host]
  rintro e he
  cases he
  exact Envelope.portable_close_iff.2 (by decide +kernel)

/-- The newcomer learns of the third node. -/
lemma outcome_reply (rpcTimeout : Span) :
    Contact.outcome "s" .heartbeat rpcTimeout (some (host.serve .heartbeat heartbeat "" 1).2) =
      .ok ⟨none, [third]⟩ := by
  have hportable := portable_reply
  rw [serve_host] at hportable ⊢
  have hclosed : (reply.close .cluster "s" "prod" "b" .heartbeat).Portable := hportable _ rfl
  have hanswers : reply.body.Answers .heartbeat := trivial
  rw [Answered.outcome_close hanswers hclosed]
  decide +kernel

end Newcomer

/-- A newcomer learns of the live peer of the only node that it knows, and not of the one that is lost. -/
theorem handsOver_of_heartbeat_newcomer :
    let news : News := ⟨none, [Newcomer.third]⟩
    let later := Newcomer.node.view.settle ⟨.peers, Newcomer.known⟩ (.ok news) 2
    Contact.outcome "s" .heartbeat (Span.seconds 10)
        (some (Newcomer.host.serve .heartbeat Newcomer.heartbeat "" 1).2) = .ok news ∧
      (∃ node, later.cluster.nodes.get? "x" = some node ∧ node.identity = Newcomer.third ∧
        ∀ t, node.isValidAt t = true ↔ t < 2 + (heartbeatTimeout : Int)) ∧
      Newcomer.lost ∉ news.peers := by
  intro news later
  have houtcome := Newcomer.outcome_reply (Span.seconds 10)
  have hlive : (⟨.peers, Newcomer.known⟩ : Contact).node.registeredRemoteAt 0 = true := by decide
  obtain ⟨-, hlisted, -, htakes⟩ :=
    handsOver_of_heartbeat (a := Newcomer.node) (b := Newcomer.host) (w := Newcomer.node.view) rfl rfl
      Newcomer.placed_host hlive Newcomer.portable_heartbeat Newcomer.portable_reply houtcome rfl 2
  have hnone : (Newcomer.node.view.updateSide .peers "b" (Contact.succeeded news 2)).cluster.nodes.get? "x" =
      none := by
    decide +kernel
  obtain ⟨x, hx⟩ := htakes.taken Newcomer.third (by decide) (by decide) (by decide)
  obtain ⟨hname, hmem, -, -, -, hvalid⟩ := htakes.added "x" x hnone hx
  refine ⟨houtcome, ⟨x, hx, List.mem_singleton.1 hmem, hvalid⟩, ?_⟩
  decide

end EndNode

end Flotilla
