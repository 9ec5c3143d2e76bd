import Flotilla.Service.Node
import Flotilla.Proofs.Cluster.Records

/-!
# How operations are served

A request for an operation passes three checks: the name in its header has to have a token, the request
has to open under this token, and what is inside has to prove that the sender is the node that the record
under the name is about.  A request that is admitted passes all of them; any other one is refused.
-/

namespace Flotilla

open Rpc (Answer Reply Request Status)

/-- To store the record that is there changes nothing but the revision. -/
lemma Roster.entries_insert_of_get? {r : Roster} {key : String} {node : Node}
    (h : r.get? key = some node) : (r.insert key node).entries = r.entries := by
  refine Std.ExtTreeMap.ext_getElem? fun name => (r.get?_insert key name node).trans ?_
  split_ifs with hname
  · rw [← hname]
    exact h.symm
  · rfl

/-! ### Identities on their way -/

lemma toUInt32_eq_zero_iff {port : UInt16} : port.toUInt32 = 0 ↔ port = 0 := by
  rw [← UInt32.toNat_inj, ← UInt16.toNat_inj]
  simp

lemma toUInt32_toUInt16 {port : UInt32} (h : port < 65536) : port.toUInt16.toUInt32 = port := by
  have hlt : port.toNat < 65536 := UInt32.lt_iff_toNat_lt.1 h
  rw [UInt32.toUInt32_toUInt16, ← UInt32.toNat_inj]
  simpa using hlt

/-- An identity that arrives is the one that was sent, if this has an address. -/
lemma toIdentity_eq_ok_iff {w : Wire.Identity} {i : Identity} :
    w.toIdentity = .ok i ↔ w = .ofIdentity i ∧ i.HasAddress := by
  rw [Wire.Identity.toIdentity, Wire.Identity.ofIdentity, Identity.HasAddress]
  constructor
  · intro h
    split_ifs at h with hport
    obtain ⟨hzero, hlt, hhost⟩ := hport
    cases h
    refine ⟨by rw [toUInt32_toUInt16 hlt], hhost, fun h => hzero ?_⟩
    rw [← toUInt32_toUInt16 hlt]
    exact toUInt32_eq_zero_iff.2 h
  · rintro ⟨rfl, hhost, hport⟩
    have hlt : i.port.toUInt32 < 65536 := by
      rw [UInt32.lt_iff_toNat_lt]
      simpa using i.port.toNat_lt
    rw [if_pos ⟨toUInt32_eq_zero_iff.not.2 hport, hlt, hhost⟩]
    simp

namespace PeerView

variable {v : PeerView} {sender : String} {r : Request} {o : Operation} {e : Envelope} {now : Instant}
  {node : Node} {σ : Type} [ProxyEngine σ] [CertManager σ] {engine : σ}

/-! ### Authentication -/

/-- Credentials are accepted only if they name the sender of the envelope. -/
lemma presented_eq_ok_iff {claimed : Identity} {token : String} :
    presented sender r = .ok (claimed, token) ↔
      r.auth = some (.of token claimed) ∧ claimed.HasAddress ∧ claimed.name = sender := by
  constructor
  · intro h
    rw [presented] at h
    split at h
    · rename_i given w hauth
      split at h
      · rename_i who hwho
        split_ifs at h with hname
        cases h
        obtain ⟨rfl, haddress⟩ := toIdentity_eq_ok_iff.1 hwho
        exact ⟨hauth, haddress, hname⟩
      · cases h
    · cases h
  · rintro ⟨hauth, haddress, hname⟩
    simp [presented, hauth, Wire.AuthInfo.of, toIdentity_eq_ok_iff.2 ⟨rfl, haddress⟩, hname]

/-- An opened request proves that its sender is the node that a record is about: it carries the identity
and the token of the record, and the node proved itself a short while ago. -/
structure Proves (r : Request) (sender : String) (now : Instant) (node : Node) : Prop where
  auth_eq : r.auth = some (.of node.inToken node.identity)
  name_eq : node.identity.name = sender
  hasAddress : node.identity.HasAddress
  inToken_ne : node.inToken ≠ ""
  isRecent : ∀ s ∈ node.heardAt, s.isRecent now = true

/-- A sender that proves itself is heard. -/
lemma authenticateSender_of_proves (hget : v.cluster.nodes.get? sender = some node)
    (h : Proves r sender now node) :
    v.authenticateSender sender r now =
      ({ v with
          cluster.nodes := v.cluster.nodes.insert sender (Cluster.heard now node)
          cluster.quarantine := v.cluster.quarantine.erase sender },
        .ok (Cluster.heard now node)) := by
  have hpresented : presented sender r = .ok (node.identity, node.inToken) :=
    presented_eq_ok_iff.2 ⟨h.auth_eq, h.hasAddress, h.name_eq⟩
  have hfault : Cluster.credentialFault? node node.identity node.inToken now = none :=
    Cluster.credentialFault?_eq_none_iff.2 ⟨rfl, h.inToken_ne, rfl, h.isRecent⟩
  have hget' : v.cluster.nodes.get? node.identity.name = some node := by rwa [h.name_eq]
  simp only [authenticateSender, hpresented, Cluster.authenticate_of_no_fault hget' hfault, h.name_eq]
  rfl

/-- Nothing but the revision changes if the sender is not authenticated. -/
lemma authenticateSender_of_not_proves
    (h : ∀ node, v.cluster.nodes.get? sender = some node → ¬ Proves r sender now node) :
    ∃ nodes fault, nodes.entries = v.cluster.nodes.entries ∧
      v.authenticateSender sender r now = ({ v with cluster.nodes := nodes }, .error fault) := by
  rw [authenticateSender]
  cases hpresented : presented sender r with
  | error fault => exact ⟨v.cluster.nodes, fault, rfl, rfl⟩
  | ok claim =>
    obtain ⟨claimed, token⟩ := claim
    obtain ⟨hauth, haddress, rfl⟩ := presented_eq_ok_iff.1 hpresented
    cases hget : v.cluster.nodes.get? claimed.name with
    | none =>
      simp only [Cluster.authenticate_of_none hget]
      exact ⟨v.cluster.nodes, _, rfl, rfl⟩
    | some node =>
      cases hfault : Cluster.credentialFault? node claimed token now with
      | some fault =>
        simp only [Cluster.authenticate_of_fault hget hfault]
        exact ⟨v.cluster.nodes.insert claimed.name node, fault, Roster.entries_insert_of_get? hget, rfl⟩
      | none =>
        obtain ⟨hid, hne, htoken, hrecent⟩ := Cluster.credentialFault?_eq_none_iff.1 hfault
        subst hid htoken
        exact absurd ⟨hauth, rfl, haddress, hne, hrecent⟩ (h node hget)

/-! ### Admission -/

/-- A request is admitted if it opens under the token of the record that its header names, and proves
that its sender is the node of this record. -/
structure Admits (v : PeerView) (o : Operation) (e : Envelope) (now : Instant) (node : Node)
    (r : Request) : Prop where
  get?_eq : v.cluster.nodes.get? e.sender = some node
  opens : Request.open? node.inToken (.operate o) e = .ok r
  proves : Proves r e.sender now node

/-- An admitted request is carried out, and counts as a signal of its sender. -/
lemma serveOperation_of_admits (h : v.Admits o e now node r) :
    v.serveOperation engine o e now =
      ({ v with
          cluster.nodes := v.cluster.nodes.insert e.sender (Cluster.heard now node)
          cluster.quarantine := v.cluster.quarantine.erase e.sender },
        (r.perform o now engine).1,
        .ok ((r.perform o now engine).2.close .node node.inToken v.cluster.name v.this.name
          (.operate o))) := by
  have htoken : v.issuedToken? e.sender = some node.inToken := by
    simp [issuedToken?, h.get?_eq, h.proves.inToken_ne]
  simp only [serveOperation, htoken, h.opens, authenticateSender_of_proves h.get?_eq h.proves]

/-- What a request that is not admitted is answered with: a status, or a sealed reply without data that
says that the authentication failed. -/
def Refuses (v : PeerView) (o : Operation) (e : Envelope) (a : Answer) : Prop :=
  (∃ status, a = .error status) ∨
    ∃ token msg, v.issuedToken? e.sender = some token ∧
      a = .ok (Reply.close .node token v.cluster.name v.this.name (.operate o)
        ⟨ResponseCode.authFailed.number, msg, .blank (.operate o)⟩)

/-- A request that is not admitted is refused the same way by every engine, and changes nothing but the
revision of the roster. -/
lemma serveOperation_of_not_admits (h : ∀ node r, ¬ v.Admits o e now node r) :
    ∃ nodes answer, nodes.entries = v.cluster.nodes.entries ∧ v.Refuses o e answer ∧
      ∀ {τ : Type} [ProxyEngine τ] [CertManager τ] (engine : τ),
        v.serveOperation engine o e now = ({ v with cluster.nodes := nodes }, engine, answer) := by
  cases htoken : v.issuedToken? e.sender with
  | none =>
    refine ⟨v.cluster.nodes, .error ⟨.unauthenticated, "no token issued to " ++ e.sender⟩, rfl,
      .inl ⟨_, rfl⟩, fun engine => ?_⟩
    rw [serveOperation, htoken]
  | some token =>
    cases hopen : Request.open? token (.operate o) e with
    | error fault =>
      refine ⟨v.cluster.nodes, .error ⟨.unauthenticated,
        "cannot open request from " ++ e.sender ++ ": " ++ fault.message⟩, rfl, .inl ⟨_, rfl⟩,
        fun engine => ?_⟩
      simp only [serveOperation, htoken, hopen]
    | ok r =>
      have hproves : ∀ node, v.cluster.nodes.get? e.sender = some node → ¬ Proves r e.sender now node := by
        intro node hget hproves
        obtain rfl : node.inToken = token := by
          simpa [issuedToken?, hget, hproves.inToken_ne] using htoken
        exact h node r ⟨hget, hopen, hproves⟩
      obtain ⟨nodes, fault, hentries, hauth⟩ := authenticateSender_of_not_proves hproves
      refine ⟨nodes, _, hentries, .inr ⟨token, fault.message, htoken, rfl⟩, fun engine => ?_⟩
      simp only [serveOperation, htoken, hopen, hauth]
      rfl

end PeerView

end Flotilla
