import Flotilla.Proofs.Cluster.Stability
import Flotilla.Proofs.EndNode.Causes

/-!
# Records that stay at a node

What a node is called for, what it hears from others and what becomes of its contacts reaches its peers
through events of its cluster, which is steady in them.  Its center is out of the reach of everything but
its own contacts.
-/

namespace Flotilla

open Rpc (Answer Method Request)

variable {σ : Type} [ProxyEngine σ] [CertManager σ]

namespace Running

/-- The event is none of the edits of an administrator. -/
def Event.IsProtocol : Event → Prop
  | .addLocal _ _ | .deleteNode _ | .setCenter _ _ => False
  | _ => True

/-- A node keeps its peers, and apart from them its center, where nobody registers and nothing is
dropped. -/
def keeper : Side → Keeper (Running σ) Event
  | .peers => {
      step := step
      table r := r.roster .peers
      registers r e who now := ∃ env fresh request token result,
        e = .serve .register env fresh now ∧
        Request.open? r.node.view.cluster.token .register env = .ok request ∧
        claimOf request = .ok (who, token) ∧
        (r.node.view.cluster.register who token r.node.this.name fresh now).2 = .ok result
      evicts e now := e = .evict now }
  | .center => {
      step := step
      table r := r.roster .center
      registers _ _ _ _ := False
      evicts _ _ := False }

lemma table_keeper (side : Side) (r : Running σ) : (keeper side).table r = r.roster side := by
  cases side <;> rfl

lemma run_keeper (side : Side) (r : Running σ) (es : List Event) : (keeper side).run r es = r.run es := by
  cases side <;> rfl

variable {r : Running σ} {e : Event}

/-! ### Peers -/

/-- An event that comes down to one of its cluster is as steady as that one. -/
lemma isSteady_of_step {e' : Cluster.Event} (hcauses : r.Causes e e') (he : e.IsProtocol)
    (hstep : (r.step e).node.view.cluster = (r.node.view.cluster.step e').1)
    (hevicts : ∀ now, e = .evict now ↔ e' = .evict now) : (keeper .peers).IsSteady r e := by
  have hprotocol : e'.IsProtocol := by
    cases hcauses with
    | promote | store | erase => exact he.elim
    | isolate | register | heartbeat | authenticate | settle | tell | merge | evict => trivial
  have hsteady := r.node.view.cluster.isSteady e' hprotocol
  refine hsteady.transfer rfl (congrArg Cluster.nodes hstep) ?_ hevicts
  rintro who now ⟨token, server, fresh, result, rfl, hresult⟩
  cases hcauses with
  | register hopen hclaim => exact ⟨_, fresh, _, token, result, rfl, hopen, hclaim, hresult⟩

/-- A request that is served changes the peers as the protocol may. -/
lemma isSteady_serve (m : Method) (env : Envelope) (fresh : String) (now : Instant) :
    (keeper .peers).IsSteady r (.serve m env fresh now) := by
  rcases r.serve_cases m env fresh now with hsame | ⟨e', hcauses, hstep⟩
  · apply Keeper.isSteady_of_keeps
    · change Roster.Keeps (r.step (.serve m env fresh now)).node.view.cluster.nodes
        r.node.view.cluster.nodes
      rw [hsame]
      exact .refl _
    · nofun
  · apply isSteady_of_step hcauses trivial hstep
    intro now
    constructor
    · nofun
    · rintro rfl
      cases hcauses

lemma isSteady_of_isQuiet (hcauses : ∀ e', r.Causes e e' → e'.IsQuiet)
    (hevicts : ∀ now, e ≠ .evict now) : (keeper .peers).IsSteady r e := by
  apply Keeper.isSteady_of_keeps
  · obtain ⟨es, hes, hcluster⟩ := r.comesDown e
    change Roster.Keeps (r.step e).node.view.cluster.nodes r.node.view.cluster.nodes
    rw [hcluster]
    exact r.node.view.cluster.keeps_run fun e' he' => hcauses e' (hes e' he')
  · exact hevicts

/-- The peers of a node are kept by the protocol. -/
lemma isSteady_peers (r : Running σ) (he : e.IsProtocol) : (keeper .peers).IsSteady r e := by
  cases e with
  | serve m env fresh now => exact isSteady_serve m env fresh now
  | evict now =>
    apply isSteady_of_step (.evict now) trivial rfl
    intro now'
    constructor
    · rintro ⟨⟩
      rfl
    · rintro ⟨⟩
      rfl
  | plan | land | merge =>
    apply isSteady_of_isQuiet
    · intro e' hcauses
      cases hcauses <;> trivial
    · nofun
  | addLocal | deleteNode | setCenter => exact he.elim

/-! ### Centers -/

/-- The center of a node is kept by the protocol. -/
lemma isSteady_center (r : Running σ) (he : e.IsProtocol) : (keeper .center).IsSteady r e := by
  have hcenter : ∀ center now, e ≠ .setCenter center now := by
    rintro center now rfl
    exact he
  apply Keeper.isSteady_of_keeps
  · change Roster.Keeps ((r.step e).roster .center) (r.roster .center)
    rcases r.center_step hcenter with hsame | ⟨name, outcome, now, hupdate⟩
    · rw [hsame]
      exact .refl _
    · rw [hupdate]
      exact .update_settled _ name outcome now
  · exact fun _ => id

/-- A node is steady in everything but the edits of an administrator. -/
theorem isSteady (side : Side) (r : Running σ) (e : Event) (he : e.IsProtocol) :
    (keeper side).IsSteady r e := by
  cases side with
  | peers => exact r.isSteady_peers he
  | center => exact r.isSteady_center he

end Running

/-! ### Runs -/

/-- Whatever happens to a cluster or to a node, short of direct edits: as long as a record stays, it is
about the same peer, and its token changes only if this peer registers while it is not registered; a
record leaves in an eviction, if and only if it is not local and has been silent for 60 s; and so a local
record stays for good. -/
theorem Keeper.isStable_of_isProtocol (c : Cluster) (es : List Cluster.Event)
    (hes : ∀ e ∈ es, e.IsProtocol) (r : Running σ) (fs : List Running.Event)
    (hfs : ∀ e ∈ fs, e.IsProtocol) :
    Cluster.keeper.IsStable c es ∧ ∀ side, (Running.keeper side).IsStable r fs :=
  ⟨isStable_of_isSteady Cluster.isSteady hes c,
    fun side => isStable_of_isSteady (Running.isSteady side) hfs r⟩

/-- A rival at another address registers under the name of a fixed peer and is listed by others.  The
fixed peer stays, while a silent stranger is dropped. -/
theorem Keeper.isStable_of_isProtocol_rival :
    let x : Identity := ⟨"x", "10.0.0.2", 5000, "prod"⟩
    let rival : Identity := ⟨"x", "10.6.6.6", 5000, "prod"⟩
    let stranger : Identity := ⟨"y", "10.0.0.3", 5000, "prod"⟩
    let late : Instant := Span.seconds 60
    let nodes := (Roster.empty.insert "x" (.fixed x 0)).insert "y" (.new stranger 0)
    let c : Cluster := { Cluster.new "prod" "s" with nodes := nodes }
    let es : List Cluster.Event :=
      [.register rival "s" "a" "t" 1, .learn rival 2, .settle "x" (.error (.timeout 3)) 3, .evict late]
    let fs : List Running.Event := [.plan .peers, .land 0 0 none 1, .merge [rival, stranger] 2, .evict late]
    (∀ e ∈ es, e.IsProtocol) ∧ (∀ e ∈ fs, e.IsProtocol) ∧
      (∃ node, (c.run es).nodes.get? "x" = some node ∧ node.Continues (.fixed x 0)) ∧
      (c.run es).nodes.get? "y" = none ∧
      ∃ node, (((Running.start (Running.pair.built 0)).run fs).roster .peers).get? "x" = some node ∧
        node.Continues (.fixed x 0) := by
  intro x rival stranger late nodes c es fs
  have hes : ∀ e ∈ es, e.IsProtocol := by simp [es, Cluster.Event.IsProtocol]
  have hfs : ∀ e ∈ fs, e.IsProtocol := by simp [fs, Running.Event.IsProtocol]
  have hx : ((Running.start (Running.pair.built 0)).roster .peers).get? "x" = some (.fixed x 0) := by
    decide +kernel
  obtain ⟨hcluster, hnode⟩ :=
    isStable_of_isProtocol c es hes (Running.start (Running.pair.built 0)) fs hfs
  have hforgotten : (Node.new stranger 0).IsForgotten late :=
    Node.survivesAt_eq_false_iff.1 (by decide +kernel)
  have hstays := hcluster.permanent "x" (.fixed x 0) (by decide +kernel) rfl
  have hgone := (hcluster.steady (es.take 3) (.evict late) [] rfl).dropped late rfl "y" (.new stranger 0)
    (by decide +kernel) hforgotten
  have hstays' := (hnode .peers).permanent "x" (.fixed x 0) (by rw [Running.table_keeper, hx]) rfl
  rw [Cluster.table_keeper, Cluster.run_keeper] at hstays
  rw [Cluster.table_keeper, Cluster.step_keeper, Cluster.run_keeper] at hgone
  rw [Running.table_keeper, Running.run_keeper] at hstays'
  have hes' : c.run es = ((c.run (es.take 3)).step (.evict late)).1 := c.run_append (es.take 3) [.evict late]
  exact ⟨hes, hfs, hstays, hes' ▸ hgone, hstays'⟩

end Flotilla
