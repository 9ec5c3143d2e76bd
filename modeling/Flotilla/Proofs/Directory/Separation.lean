import Mathlib.Algebra.GroupWithZero.Nat
import Flotilla.Proofs.Roster.Eviction
import Flotilla.Proofs.Rpc.Sealing
import Flotilla.Proofs.Service.Membership
import Flotilla.Service.Node

/-!
# Clusters of a center do not touch each other

A request is led to a cluster by its header, which nobody vouches for; what it says itself is sealed.  So
what happens to a cluster is what is addressed to it, besides evictions, and its records are about nodes
that claim this cluster.
-/

namespace Flotilla

open Rpc (Method Request)

/-- A table is given by what stands under each of its keys. -/
lemma Roster.entries_eq_of_get?_eq {r r' : Roster} (h : ∀ key, r.get? key = r'.get? key) :
    r.entries = r'.entries :=
  Std.ExtTreeMap.ext_getElem? h

/-! ### Clusters -/

namespace Cluster

/-- The cluster after a call that was led to it. -/
def served (c : Cluster) (server : String) (m : Method) (e : Envelope) (fresh : String) (now : Instant) :
    Cluster :=
  match m with
  | .register => (c.serveRegister server e fresh now).1
  | .heartbeat => (c.serveHeartbeat server e now).1
  | .operate _ => c

/-- What a call makes of a cluster. -/
inductive Served (c : Cluster) (server : String) (m : Method) (e : Envelope) (fresh : String)
    (now : Instant) : Cluster → Prop where
  | ignored : Served c server m e fresh now c
  | isolated (who : Identity) : Served c server m e fresh now (c.isolate who now)
  | registered {request : Request} {who : Identity} {token : String}
      (hopen : Request.open? c.token m e = .ok request) (hclaim : claimOf request = .ok (who, token)) :
      Served c server m e fresh now (c.register who token server fresh now).1
  | greeted {request : Request} {who : Identity} {token : String}
      (hopen : Request.open? c.token m e = .ok request) (hclaim : claimOf request = .ok (who, token)) :
      Served c server m e fresh now (c.heartbeat who token now).1

variable (c : Cluster) (server : String) (m : Method) (e : Envelope) (fresh : String) (now : Instant)

/-- A call makes one of those things of a cluster that `Served` lists. -/
lemma served_served : c.Served server m e fresh now (c.served server m e fresh now) := by
  cases m with
  | register =>
    simp only [served]
    cases hopen : Request.open? c.token .register e with
    | error fault =>
      rw [serveRegister_of_sealed hopen]
      exact .isolated _
    | ok request =>
      rw [serveRegister_of_opened hopen]
      cases hclaim : claimOf request with
      | error fault =>
        rw [answerRegister_of_error hclaim]
        exact .ignored
      | ok claim =>
        rw [answerRegister_of_ok hclaim]
        exact .registered hopen hclaim
  | heartbeat =>
    simp only [served]
    cases hopen : Request.open? c.token .heartbeat e with
    | error fault =>
      rw [serveHeartbeat_of_sealed hopen]
      exact .ignored
    | ok request =>
      rw [serveHeartbeat_of_opened hopen]
      cases hclaim : claimOf request with
      | error fault =>
        rw [answerHeartbeat_of_error hclaim]
        exact .ignored
      | ok claim =>
        rw [answerHeartbeat_of_ok hclaim]
        exact .greeted hopen hclaim
  | operate o => exact .ignored

/-- All records are about nodes that claim this cluster. -/
def IsHome (c : Cluster) : Prop := ∀ key node, c.nodes.get? key = some node → node.identity.cluster = c.name

variable {c server m e fresh now}

/-- A registration that changes a record comes from a node that claims the cluster. -/
lemma cluster_eq_of_register {who : Identity} {token : String}
    (h : (c.register who token server fresh now).1.nodes.entries ≠ c.nodes.entries) :
    who.cluster = c.name := by
  cases hresult : (c.register who token server fresh now).2 with
  | error fault => exact absurd (Roster.entries_eq_of_get?_eq (get?_register_of_error hresult)) h
  | ok r => exact (screen_eq_ok_iff.1 (register_eq_ok_iff.1 hresult).1).2.2.1

/-- A heartbeat that changes a record comes from the node that the record is about. -/
lemma cluster_eq_of_heartbeat {who : Identity} {token : String} (hhome : c.IsHome)
    (h : (c.heartbeat who token now).1.nodes.entries ≠ c.nodes.entries) : who.cluster = c.name := by
  rw [heartbeat_fst] at h
  cases hresult : (c.authenticate who token now).2 with
  | error fault => exact absurd (Roster.entries_eq_of_get?_eq (get?_authenticate_of_error hresult)) h
  | ok node =>
    obtain ⟨known, hget, hfault, -⟩ := authenticate_eq_ok_iff.1 hresult
    rw [← (credentialFault?_eq_none_iff.1 hfault).1]
    exact hhome _ known hget

/-- A registration leaves only nodes of this cluster in it. -/
lemma IsHome.register {who : Identity} {token : String} (h : c.IsHome) :
    (c.register who token server fresh now).1.IsHome := by
  intro key node hget
  rw [name_register]
  cases hresult : (c.register who token server fresh now).2 with
  | error fault =>
    rw [get?_register_of_error hresult] at hget
    exact h key node hget
  | ok r =>
    rw [get?_register_of_ok hresult] at hget
    split_ifs at hget
    · cases hget
      rw [identity_admitted_of_ok hresult]
      exact (screen_eq_ok_iff.1 (register_eq_ok_iff.1 hresult).1).2.2.1
    · exact h key node hget

/-- A heartbeat leaves only nodes of this cluster in it. -/
lemma IsHome.heartbeat {who : Identity} {token : String} (h : c.IsHome) :
    (c.heartbeat who token now).1.IsHome := by
  intro key node hget
  rw [heartbeat_fst] at hget ⊢
  rw [name_authenticate]
  cases hresult : (c.authenticate who token now).2 with
  | error fault =>
    rw [get?_authenticate_of_error hresult] at hget
    exact h key node hget
  | ok n =>
    rw [get?_authenticate_of_ok hresult] at hget
    split_ifs at hget
    · cases hget
      obtain ⟨known, hknown, -, rfl⟩ := authenticate_eq_ok_iff.1 hresult
      exact h _ known hknown
    · exact h key node hget

lemma IsHome.evictStale (h : c.IsHome) : (c.evictStale now).1.IsHome := by
  intro key node hget
  rw [nodes_evictStale, Roster.get?_filter] at hget
  exact h key node (Option.filter_eq_some_iff.1 hget).1

/-- A call that was led to a cluster leaves only nodes of this cluster in it. -/
lemma IsHome.served (h : c.IsHome) : (c.served server m e fresh now).IsHome := by
  have hserved := c.served_served server m e fresh now
  generalize c.served server m e fresh now = c' at hserved ⊢
  cases hserved with
  | ignored => exact h
  | isolated => exact h
  | registered => exact h.register
  | greeted => exact h.heartbeat

@[simp] lemma name_served : (c.served server m e fresh now).name = c.name := by
  have hserved := c.served_served server m e fresh now
  generalize c.served server m e fresh now = c' at hserved ⊢
  cases hserved with
  | ignored | isolated => rfl
  | registered => exact name_register ..
  | greeted => rw [heartbeat_fst, name_authenticate]

/-- A call that changes a record claims the cluster inside what is sealed. -/
lemma exists_claim_of_served (hhome : c.IsHome)
    (h : (c.served server m e fresh now).nodes.entries ≠ c.nodes.entries) :
    ∃ request who token, Request.open? c.token m e = .ok request ∧ claimOf request = .ok (who, token) ∧
      who.cluster = c.name := by
  have hserved := c.served_served server m e fresh now
  generalize c.served server m e fresh now = c' at h hserved
  cases hserved with
  | ignored | isolated => exact absurd rfl h
  | registered hopen hclaim => exact ⟨_, _, _, hopen, hclaim, cluster_eq_of_register h⟩
  | greeted hopen hclaim => exact ⟨_, _, _, hopen, hclaim, cluster_eq_of_heartbeat hhome h⟩

/-- An eviction gives the names that are there before it and not after it. -/
lemma evictStale_snd (c : Cluster) (now : Instant) :
    (c.evictStale now).2 = c.nodes.names.filter fun key => !(c.evictStale now).1.nodes.contains key := by
  obtain ⟨hentries, hdropped⟩ := Roster.filter_eq c.nodes (·.survivesAt now)
  have hnames : c.nodes.names = c.nodes.entries.toList.map (·.1) :=
    Std.ExtTreeMap.map_fst_toList_eq_keys.symm
  have hsnd : (c.evictStale now).2 = c.nodes.entries.namesFailing (·.survivesAt now) := hdropped
  rw [hsnd, hnames, List.filter_map, Table.namesFailing]
  congr 1
  refine List.filter_congr fun entry hentry => ?_
  have hget : c.nodes.get? entry.1 = some entry.2 :=
    Std.ExtTreeMap.mem_toList_iff_getElem?_eq_some.1 hentry
  simp only [Function.comp_apply, Roster.contains_eq_isSome, nodes_evictStale, Roster.get?_filter, hget]
  cases hlive : entry.2.survivesAt now <;> simp [hlive]

end Cluster

/-! ### Directories -/

namespace Directory

/-- What may happen to a center. -/
inductive Event where
  | add (cluster token : String)
  | evict (now : Instant)
  /-- A call arrives; `fresh` is the token to issue if one is needed. -/
  | serve (m : Method) (e : Envelope) (fresh : String) (now : Instant)

def step (d : Directory) : Event → Directory
  | .add cluster token => d.add cluster token
  | .evict now => (d.evict now).1
  | .serve m e fresh now => (d.serve m e fresh now).1

def run (d : Directory) (es : List Event) : Directory := es.foldl step d

/-- The event is addressed to a cluster, or it is an eviction. -/
def Event.concerns (cluster : String) : Event → Bool
  | .add name _ => name == cluster
  | .evict _ => true
  | .serve _ e _ _ => e.cluster == cluster

/-- What an event that concerns a cluster makes of it. -/
def Event.act (server cluster : String) : Event → Option Cluster → Option Cluster
  | .add _ token, known => some (known.getD (.new cluster token))
  | .evict now, known => known.map fun c => (c.evictStale now).1
  | .serve m e fresh now, known => known.map (·.served server m e fresh now)

/-- A cluster that is there already is not replaced. -/
lemma get?_add (d : Directory) (name token cluster : String) :
    (d.add name token).get? cluster =
      if name = cluster then some ((d.get? cluster).getD (.new cluster token)) else d.get? cluster := by
  simp only [add, get?, Std.ExtTreeMap.getElem?_insertIfNew, Std.ExtTreeMap.mem_iff_isSome_getElem?,
    Std.LawfulEqCmp.compare_eq_iff_eq]
  by_cases hname : name = cluster
  · subst hname
    cases hget : d.clusters[name]? <;> simp
  · simp [hname]

/-- What is served already stays as it is. -/
lemma add_of_isSome {d : Directory} {name : String} (h : (d.get? name).isSome = true) (token : String) :
    d.add name token = d := by
  obtain ⟨server, clusters⟩ := d
  refine congrArg (mk server) (Std.ExtTreeMap.ext_getElem? fun cluster => ?_)
  refine (get?_add ⟨server, clusters⟩ name token cluster).trans ?_
  split_ifs with hname
  · obtain ⟨c, hc⟩ := Option.isSome_iff_exists.1 h
    subst hname
    rw [hc]
    exact hc.symm
  · rfl

lemma get?_evict (d : Directory) (now : Instant) (cluster : String) :
    (d.evict now).1.get? cluster = (d.get? cluster).map fun c => (c.evictStale now).1 := by
  simp [evict, get?]

lemma get?_put (d : Directory) (name cluster : String) (c : Cluster) :
    (d.put name c).get? cluster = if name = cluster then some c else d.get? cluster := by
  simp [put, get?, Std.ExtTreeMap.getElem?_insert]

/-- A call reaches the cluster that its envelope names, and no other. -/
lemma get?_serve (d : Directory) (m : Method) (e : Envelope) (fresh : String) (now : Instant)
    (cluster : String) : (d.serve m e fresh now).1.get? cluster =
      if e.cluster = cluster then (d.get? cluster).map (·.served d.name m e fresh now)
      else d.get? cluster := by
  by_cases hcluster : e.cluster = cluster
  · subst hcluster
    rw [if_pos rfl]
    cases hget : d.get? e.cluster with
    | none => cases m <;> simp [serve, serveRegister, serveHeartbeat, hget]
    | some c =>
      cases m <;> simp [serve, serveRegister, serveHeartbeat, hget, get?_put, Cluster.served]
  · rw [if_neg hcluster]
    cases hget : d.get? e.cluster with
    | none => cases m <;> simp [serve, serveRegister, serveHeartbeat, hget]
    | some c => cases m <;> simp [serve, serveRegister, serveHeartbeat, hget, get?_put, hcluster]

/-- A registration that opens is one with the cluster that its header names. -/
lemma get?_serve_register {d : Directory} {c : Cluster} {e : Envelope} {request : Request}
    {claim : Identity × String} (hget : d.get? e.cluster = some c)
    (hopen : Request.open? c.token .register e = .ok request) (hclaim : claimOf request = .ok claim)
    {fresh : String} {now : Instant} : (d.serve .register e fresh now).1.get? e.cluster =
      some (c.register claim.1 claim.2 d.name fresh now).1 := by
  have hserved : c.served d.name .register e fresh now = (c.register claim.1 claim.2 d.name fresh now).1 := by
    rw [Cluster.served, Cluster.serveRegister_of_opened hopen, Cluster.answerRegister_of_ok hclaim]
  rw [get?_serve, if_pos rfl, hget, Option.map_some, hserved]

@[simp] lemma name_step (d : Directory) (e : Event) : (d.step e).name = d.name := by
  cases e with
  | add | evict => rfl
  | serve m e fresh now =>
    cases hget : d.get? e.cluster with
    | none => cases m <;> simp [step, serve, serveRegister, serveHeartbeat, hget]
    | some c => cases m <;> simp [step, serve, serveRegister, serveHeartbeat, hget, put]

/-- An event does something to the clusters that it concerns, and to no other one. -/
lemma get?_step (d : Directory) (e : Event) (cluster : String) :
    (d.step e).get? cluster =
      if e.concerns cluster then e.act d.name cluster (d.get? cluster) else d.get? cluster := by
  cases e with
  | add name token => simp only [step, get?_add, Event.concerns, Event.act, beq_iff_eq]
  | evict now => simp only [step, get?_evict, Event.concerns, Event.act, if_true]
  | serve m e fresh now => simp only [step, get?_serve, Event.concerns, Event.act, beq_iff_eq]

/-- A cluster comes out of the events that concern it as out of all events. -/
lemma get?_run_filter (cluster : String) (es : List Event) {d d' : Directory} (hname : d.name = d'.name)
    (hget : d.get? cluster = d'.get? cluster) :
    (d.run es).get? cluster = (d'.run (es.filter (·.concerns cluster))).get? cluster := by
  induction es generalizing d d' with
  | nil => exact hget
  | cons e es ih =>
    cases hconcerns : e.concerns cluster with
    | true =>
      rw [List.filter_cons_of_pos hconcerns]
      refine ih (by simpa using hname) ?_
      rw [get?_step, get?_step, hconcerns, hname, hget]
    | false =>
      rw [List.filter_cons_of_neg (by simp [hconcerns])]
      refine ih (by simpa using hname) ?_
      rw [get?_step, hconcerns]
      exact hget

/-! ### Records at home -/

/-- Each cluster is served under its own name, and its records are about nodes that claim it. -/
def IsHome (d : Directory) : Prop :=
  ∀ cluster c, d.get? cluster = some c → c.name = cluster ∧ c.IsHome

lemma isHome_new (name : String) : (new name).IsHome := by
  intro cluster c hget
  simp [new, get?] at hget

/-- Every event leaves each node in the table of its own cluster. -/
lemma IsHome.step {d : Directory} (h : d.IsHome) (e : Event) : (d.step e).IsHome := by
  intro cluster c hget
  rw [get?_step] at hget
  split_ifs at hget
  · cases e with
    | add name token =>
      cases hknown : d.get? cluster with
      | none =>
        obtain rfl : Cluster.new cluster token = c := by simpa [Event.act, hknown] using hget
        refine ⟨rfl, fun key node hnode => ?_⟩
        simp [Cluster.new] at hnode
      | some known =>
        obtain rfl : known = c := by simpa [Event.act, hknown] using hget
        exact h cluster known hknown
    | evict now =>
      obtain ⟨known, hknown, rfl⟩ := Option.map_eq_some_iff.1 hget
      obtain ⟨hname, hhome⟩ := h cluster known hknown
      exact ⟨hname, hhome.evictStale⟩
    | serve m e fresh now =>
      obtain ⟨known, hknown, rfl⟩ := Option.map_eq_some_iff.1 hget
      obtain ⟨hname, hhome⟩ := h cluster known hknown
      exact ⟨Cluster.name_served.trans hname, hhome.served⟩
  · exact h cluster c hget

lemma IsHome.run {d : Directory} (h : d.IsHome) (es : List Event) : (d.run es).IsHome := by
  induction es generalizing d with
  | nil => exact h
  | cons e es ih => exact ih (h.step e)

/-! ### Evictions -/

def nodesIn (d : Directory) (cluster : String) : List String := (d.get? cluster).elim [] (·.nodes.names)

/-- The number that an eviction gives counts the nodes that are gone, cluster by cluster. -/
lemma evict_snd (d : Directory) (now : Instant) : (d.evict now).2 =
    (d.names.map fun cluster => ((d.nodesIn cluster).filter fun node =>
      !((d.evict now).1.nodesIn cluster).contains node).length).sum := by
  have hnames : d.names = d.clusters.toList.map (·.1) := Std.ExtTreeMap.map_fst_toList_eq_keys.symm
  have hsum : (d.evict now).2 = (d.clusters.values.map fun c => (c.evictStale now).2.length).sum := by
    rw [List.sum_eq_foldl, List.foldl_map]
    rfl
  rw [hsum, hnames, Table.values_eq_map_toList, List.map_map, List.map_map]
  congr 1
  refine List.map_congr_left fun entry hentry => ?_
  have hget : d.get? entry.1 = some entry.2 := Std.ExtTreeMap.mem_toList_iff_getElem?_eq_some.1 hentry
  simp only [Function.comp_apply, nodesIn, get?_evict, hget, Option.map_some, Option.elim_some]
  rw [entry.2.evictStale_snd now]
  congr 1
  refine List.filter_congr fun key _ => ?_
  rw [Bool.eq_iff_iff]
  simp [Roster.names, Roster.contains, ← Std.ExtTreeMap.contains_iff_mem]

/-! ### Separation -/

/-- Whatever happens to a center, each cluster comes out as if only what is addressed to it had happened,
besides the evictions.  A cluster that is served already is not added anew, and an eviction counts the nodes
that it drops from all clusters.  If the records of each cluster are about nodes that claim it, as they are
at a new center, then they stay so, and a call changes them only if it claims the cluster inside what is
sealed, whatever its header says. -/
theorem run_separates (d : Directory) (es : List Event) :
    let last := d.run es
    (∀ cluster, last.get? cluster = (d.run (es.filter (·.concerns cluster))).get? cluster) ∧
      (∀ cluster token, (last.get? cluster).isSome = true → last.add cluster token = last) ∧
      (∀ now, (last.evict now).2 = (last.names.map fun cluster => ((last.nodesIn cluster).filter fun node =>
        !((last.evict now).1.nodesIn cluster).contains node).length).sum) ∧
      (∀ name, (new name).IsHome) ∧
      (d.IsHome → last.IsHome ∧ ∀ m e fresh now c c', last.get? e.cluster = some c →
        (last.serve m e fresh now).1.get? e.cluster = some c' → c'.nodes.entries ≠ c.nodes.entries →
        ∃ request who token, Request.open? c.token m e = .ok request ∧
          claimOf request = .ok (who, token) ∧ who.cluster = e.cluster) := by
  intro last
  refine ⟨fun cluster => get?_run_filter cluster es rfl rfl, fun cluster token h => add_of_isSome h token,
    fun now => last.evict_snd now, isHome_new, fun hhome => ⟨hhome.run es, ?_⟩⟩
  intro m e fresh now c c' hget hget' hchanged
  rw [get?_serve, if_pos rfl, hget] at hget'
  obtain rfl : c.served last.name m e fresh now = c' := Option.some.inj hget'
  obtain ⟨hname, hrecords⟩ := hhome.run es e.cluster c hget
  rw [← hname]
  exact Cluster.exists_claim_of_served hrecords hchanged

/-- A center serves two clusters with one token, and `x` registers with its cluster; a copy of the call has
the name of the other cluster in its header, which puts `x` into quarantine there. -/
theorem run_separates_one_token :
    let x : Identity := ⟨"x", "10.0.0.2", 5000, "prod"⟩
    let request : Request := ⟨some (.of "s" x), .register⟩
    let e := request.close .cluster "s" "prod" "x"
    let added := (new "center").run [.add "prod" "s", .add "test" "s"]
    let served : List Event := [.serve .register { e with cluster := "test" } "u" 0, .serve .register e "t" 0]
    added.IsHome ∧ (added.run served).get? "prod" = (added.run [.serve .register e "t" 0]).get? "prod" ∧
      ∃ c c', added.get? e.cluster = some c ∧
        (added.serve .register e "t" 0).1.get? e.cluster = some c' ∧ c'.nodes.entries ≠ c.nodes.entries ∧
        ∃ request who token, Request.open? c.token .register e = .ok request ∧
          claimOf request = .ok (who, token) ∧ who.cluster = "prod" := by
  intro x request e added served
  have hhome : added.IsHome := (isHome_new "center").run _
  have hportable : e.Portable := Envelope.portable_close_iff.2 (by decide +kernel)
  have hopen : Request.open? "s" request.call.method e = .ok request := Request.open?_close hportable
  have hcluster : e.cluster = "prod" := rfl
  -- from here on the call stays folded: comparing its parts would seal it each time
  clear_value e
  have hget : added.get? e.cluster = some (.new "prod" "s") := by
    rw [hcluster]
    decide +kernel
  have hclaim : claimOf request = .ok (x, "s") := by decide +kernel
  have hserved : (added.serve .register e "t" 0).1.get? e.cluster =
      some ((Cluster.new "prod" "s").register x "s" "center" "t" 0).1 :=
    get?_serve_register hget hopen hclaim
  have hchanged : ((Cluster.new "prod" "s").register x "s" "center" "t" 0).1.nodes.entries ≠
      (Cluster.new "prod" "s").nodes.entries := by decide +kernel
  obtain ⟨hprojected, -⟩ := run_separates added served
  obtain ⟨-, -, -, -, hclaims⟩ := run_separates added []
  refine ⟨hhome, ?_, _, _, hget, hserved, hchanged, ?_⟩
  · rw [hprojected "prod"]
    simp [served, Event.concerns, hcluster]
  · obtain ⟨request, who, token, hopen, hclaim, hwho⟩ :=
      (hclaims hhome).2 .register e "t" 0 _ _ hget hserved hchanged
    exact ⟨request, who, token, hopen, hclaim, hwho.trans hcluster⟩

end Directory

end Flotilla
