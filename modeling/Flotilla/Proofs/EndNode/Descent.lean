import Flotilla.Proofs.EndNode.Records
import Flotilla.Proofs.Service.Membership
import Flotilla.Proofs.Service.Operations

/-!
# What becomes of records

Whatever happens to a node but the end of a contact, each record that it holds afterwards is new and
has no token of a peer, or descends from the record that was stored under the same name before, with the
identity and the token that this had.
-/

namespace Flotilla

open Rpc (CallError Method Request)

variable {now : Instant}

/-! ### Descent -/

/-- What may become of a record, or of none, without news from a contact. -/
inductive Node.Descends (before : Option Node) (after : Node) : Prop where
  | fresh (hout : after.outToken = "") (hin : after.inToken = "" ∨ after.heardAt.isSome = true)
  | kept {old : Node} (hold : before = some old) (hid : after.identity = old.identity)
      (hout : after.outToken = old.outToken)
      (hin : after.heardAt.isSome = true ∨
        after.inToken = old.inToken ∧ after.heardAt = old.heardAt)

lemma Node.Descends.self (node : Node) : node.Descends (some node) :=
  .kept rfl rfl rfl (.inr ⟨rfl, rfl⟩)

/-- A record without a token descends from anything. -/
lemma Node.Descends.new (peer : Identity) (now : Instant) (before : Option Node) :
    (Node.new peer now).Descends before :=
  .fresh rfl (.inl rfl)

lemma Node.Descends.fixed (peer : Identity) (now : Instant) (before : Option Node) :
    (Node.fixed peer now).Descends before :=
  .fresh rfl (.inl rfl)

/-- Where a token comes from may be traced through any number of steps. -/
lemma Node.Descends.trans {node : Node} {middle before : Option Node} (h : node.Descends middle)
    (hmiddle : ∀ old ∈ middle, old.Descends before) : node.Descends before := by
  cases h with
  | fresh hout hin => exact .fresh hout hin
  | @kept old hold hid hout hin =>
    cases hmiddle old hold with
    | fresh hout' hin' =>
      refine .fresh (hout.trans hout') ?_
      rcases hin with hheard | ⟨hin, hheard⟩
      · exact .inr hheard
      · rwa [hin, hheard]
    | kept hold' hid' hout' hin' =>
      refine .kept hold' (hid.trans hid') (hout.trans hout') ?_
      rcases hin with hheard | ⟨hin, hheard⟩
      · exact .inl hheard
      · rwa [hin, hheard]

/-- Every record of the later roster descends from the one under its name in the earlier one. -/
def Roster.Descends (later earlier : Roster) : Prop :=
  ∀ key node, later.get? key = some node → node.Descends (earlier.get? key)

namespace Roster

lemma Descends.refl (r : Roster) : r.Descends r := fun _ node hget => hget ▸ .self node

lemma Descends.trans {r r' r'' : Roster} (h : r''.Descends r') (h' : r'.Descends r) : r''.Descends r :=
  fun key node hget => (h key node hget).trans fun old hold => h' key old hold

/-- Tables with the same records descend from each other. -/
lemma descends_of_get?_eq {r r' : Roster} (h : ∀ key, r'.get? key = r.get? key) : r'.Descends r := by
  intro key node hget
  rw [← h, hget]
  exact .self node

lemma descends_insert {r : Roster} {key : String} {node : Node} (h : node.Descends (r.get? key)) :
    (r.insert key node).Descends r := by
  intro name node' hget
  rw [get?_insert] at hget
  split_ifs at hget with hkey
  · cases hget
    exact hkey ▸ h
  · exact hget ▸ .self node'

lemma descends_erase (r : Roster) (key : String) : (r.erase key).Descends r := by
  intro name node hget
  rw [get?_erase] at hget
  split_ifs at hget
  exact hget ▸ .self node

lemma descends_filter (r : Roster) (keep : Node → Bool) : (r.filter keep).1.Descends r := by
  intro name node hget
  rw [get?_filter] at hget
  rw [(Option.filter_eq_some_iff.1 hget).1]
  exact .self node

end Roster

/-! ### Requests -/

namespace Cluster

variable (c : Cluster) (claimed : Identity) (token : String) (now : Instant)

/-- An authentication gives no tokens. -/
lemma descends_authenticate : (c.authenticate claimed token now).1.nodes.Descends c.nodes := by
  cases hauth : (c.authenticate claimed token now).2 with
  | error e => exact Roster.descends_of_get?_eq (get?_authenticate_of_error hauth)
  | ok n =>
    intro key node hget
    rw [get?_authenticate_of_ok hauth] at hget
    split_ifs at hget with hkey
    · obtain ⟨known, hknown, -, rfl⟩ := authenticate_eq_ok_iff.1 hauth
      cases hget
      rw [← hkey, hknown]
      exact .kept rfl rfl rfl (.inl rfl)
    · exact hget ▸ .self node

/-- A registration touches only the tokens that it issues. -/
lemma descends_register (server fresh : String) :
    (c.register claimed token server fresh now).1.nodes.Descends c.nodes := by
  cases hr : (c.register claimed token server fresh now).2 with
  | error e => exact Roster.descends_of_get?_eq (get?_register_of_error hr)
  | ok r =>
    intro key node hget
    rw [get?_register_of_ok hr] at hget
    split_ifs at hget with hkey
    · cases hget
      subst hkey
      cases hknown : c.nodes.get? claimed.name with
      | none => exact .fresh rfl (.inr rfl)
      | some known => exact .kept rfl rfl rfl (.inl rfl)
    · exact hget ▸ .self node

/-- A registration that is answered leaves the tokens of others alone. -/
lemma descends_answerRegister (server : String) (r : Request) (fresh : String) :
    (c.answerRegister server r fresh now).1.nodes.Descends c.nodes := by
  cases hclaim : claimOf r with
  | error fault =>
    rw [answerRegister_of_error hclaim]
    exact .refl _
  | ok claim =>
    rw [answerRegister_of_ok hclaim]
    exact c.descends_register claim.1 claim.2 now server fresh

lemma descends_answerHeartbeat (r : Request) : (c.answerHeartbeat r now).1.nodes.Descends c.nodes := by
  cases hclaim : claimOf r with
  | error fault =>
    rw [answerHeartbeat_of_error hclaim]
    exact .refl _
  | ok claim =>
    rw [answerHeartbeat_of_ok hclaim, heartbeat_fst]
    exact c.descends_authenticate claim.1 claim.2 now

lemma descends_serveRegister (server : String) (e : Envelope) (fresh : String) :
    (c.serveRegister server e fresh now).1.nodes.Descends c.nodes := by
  cases hopen : Request.open? c.token .register e with
  | error fault =>
    rw [serveRegister_of_sealed hopen]
    exact .refl _
  | ok r =>
    rw [serveRegister_of_opened hopen]
    exact c.descends_answerRegister now server r fresh

lemma descends_serveHeartbeat (server : String) (e : Envelope) :
    (c.serveHeartbeat server e now).1.nodes.Descends c.nodes := by
  cases hopen : Request.open? c.token .heartbeat e with
  | error fault =>
    rw [serveHeartbeat_of_sealed hopen]
    exact .refl _
  | ok r =>
    rw [serveHeartbeat_of_opened hopen]
    exact c.descends_answerHeartbeat now r

end Cluster

namespace PeerView

variable {σ : Type} [ProxyEngine σ] [CertManager σ] (v : PeerView) (now : Instant)

/-- An operation gives no tokens. -/
lemma descends_serveOperation (engine : σ) (o : Operation) (e : Envelope) :
    (v.serveOperation engine o e now).1.cluster.nodes.Descends v.cluster.nodes := by
  by_cases h : ∃ node r, v.Admits o e now node r
  · obtain ⟨node, r, h⟩ := h
    rw [serveOperation_of_admits h]
    exact Roster.descends_insert (.kept h.get?_eq rfl rfl (.inl rfl))
  · obtain ⟨nodes, answer, hentries, -, hserve⟩ :=
      serveOperation_of_not_admits fun node r hadmits => h ⟨node, r, hadmits⟩
    rw [hserve]
    exact Roster.descends_of_get?_eq fun key => by rw [Roster.get?, hentries, Roster.get?]

/-- An operation leaves the center alone. -/
lemma center_serveOperation (engine : σ) (o : Operation) (e : Envelope) :
    (v.serveOperation engine o e now).1.center = v.center := by
  by_cases h : ∃ node r, v.Admits o e now node r
  · obtain ⟨node, r, h⟩ := h
    rw [serveOperation_of_admits h]
  · obtain ⟨nodes, answer, -, -, hserve⟩ :=
      serveOperation_of_not_admits fun node r hadmits => h ⟨node, r, hadmits⟩
    rw [hserve]

/-! ### What a node does by itself -/

lemma descends_setCenter (center : Identity) :
    (v.setCenter center now).center.Descends v.center := by
  have hcleared (names : List String) (r : Roster) : (names.foldl (·.erase ·) r).Descends r := by
    intro key node hget
    suffices h : ∀ r : Roster,
        (names.foldl (·.erase ·) r).get? key = some node → r.get? key = some node by
      rw [h r hget]
      exact .self node
    clear hget
    induction names with
    | nil => exact fun r h => h
    | cons name names ih =>
      intro r h
      have hstep := ih (r.erase name) h
      rw [Roster.get?_erase] at hstep
      split_ifs at hstep
      exact hstep
  intro key node hget
  rw [setCenter, Roster.get?_insert] at hget
  split_ifs at hget
  · cases hget
    exact .fixed center now _
  · exact hcleared _ _ key node hget

end PeerView

lemma Roster.descends_placeLocal (r : Roster) (identity : Identity) (now : Instant) :
    (r.placeLocal identity now).Descends r := by
  unfold placeLocal promote?
  cases hget : r.get? identity.name with
  | none =>
    rw [modify?_eq_none_iff.2 hget]
    exact descends_insert (.fixed identity now _)
  | some node =>
    rw [modify?_of_get? _ hget]
    by_cases hid : node.identity = identity
    · simp only [promote, hid, if_true]
      exact descends_insert (.kept hget hid.symm rfl (.inr ⟨rfl, rfl⟩))
    · simp only [promote, hid, if_false]
      intro name node' hget'
      rw [get?_insert] at hget'
      split_ifs at hget' with hname
      · cases hget'
        exact .fixed identity now _
      · rw [get?_insert, if_neg hname] at hget'
        exact hget' ▸ .self node'

namespace EndNode

variable {σ : Type} (n : EndNode σ)

/-- No request that is served brings a token of a peer. -/
lemma descends_serve [ProxyEngine σ] [CertManager σ] (m : Method) (e : Envelope) (fresh : String)
    (now : Instant) (side : Side) : ((n.serve m e fresh now).1.view.roster side).Descends (n.view.roster side) := by
  cases m with
  | register =>
    cases side with
    | peers => exact n.view.cluster.descends_serveRegister now n.view.this.name e fresh
    | center => exact .refl _
  | heartbeat =>
    cases side with
    | peers => exact n.view.cluster.descends_serveHeartbeat now n.view.this.name e
    | center => exact .refl _
  | operate o =>
    cases side with
    | peers => exact n.view.descends_serveOperation now n.engine o e
    | center =>
      have hcenter := n.view.center_serveOperation now n.engine o e
      exact Roster.descends_of_get?_eq fun key => congrArg (·.get? key) hcenter

/-- To write to the store changes nothing else. -/
lemma view_editStore (edit : Store → Store × Except ConfigError Unit) :
    (n.editStore edit).1.view = n.view := by
  unfold editStore
  split <;> rfl

/-- A static peer that is added has no token of its own. -/
lemma descends_addLocal (entry : StaticNode) (now : Instant) (side : Side) :
    ((n.addLocal entry now).1.view.roster side).Descends (n.view.roster side) := by
  have hview := n.view_editStore (·.addStatic entry)
  unfold addLocal
  split
  · exact .refl _
  · generalize n.editStore (·.addStatic entry) = x at hview ⊢
    obtain ⟨n', fault | u⟩ := x
    · rw [hview]
      exact .refl _
    · rw [← hview]
      cases side with
      | peers => exact Roster.descends_placeLocal _ _ _
      | center => exact .refl _

/-- Deleting a peer gives nobody a token. -/
lemma descends_deleteNode (name : String) (side : Side) :
    ((n.deleteNode name).1.view.roster side).Descends (n.view.roster side) := by
  have hview := n.view_editStore (·.removeStatic name)
  unfold deleteNode
  generalize n.editStore (·.removeStatic name) = x at hview ⊢
  obtain ⟨n', fault | u⟩ := x
  · rw [hview]
    exact .refl _
  · rw [← hview]
    cases side with
    | peers => exact Roster.descends_erase _ _
    | center => exact .refl _

end EndNode

end Flotilla
