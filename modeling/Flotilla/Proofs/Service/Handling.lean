import Flotilla.Proofs.EndNode.Tokens
import Flotilla.Proofs.Rpc.Sealing
import Flotilla.Proofs.Service.Membership
import Flotilla.Proofs.Service.Operations

/-!
# How a node handles the contacts of another one

A contact sends a registration or a heartbeat.  `EndNode.Handled` says all that such a request may do to
the record that the node keeps of its sender, and what it is answered.
-/

namespace Flotilla

open Rpc (Answer CallError Method Reply Request)
open Cluster (heard registrationReply)

/-! ### Contacts -/

namespace Contact

/-- The sealed request of a contact. -/
def envelope (c : Contact) (this : Identity) (clusterToken : String) (now : Instant) : Envelope :=
  (c.request this clusterToken now).close .cluster clusterToken this.cluster this.name

/-- What a contact brings that is answered, or is not. -/
def outcome (clusterToken : String) (m : Method) (rpcTimeout : Span) (answer : Option Answer) :
    Except CallError News :=
  (Rpc.reply clusterToken m rpcTimeout answer).bind Contact.news

end Contact

/-! ### Answers -/

/-- An answer that was given to a call of a method. -/
structure Answered where
  method : Method
  answer : Answer
  time : Instant

namespace Answered

variable (token : String) (g : Answered)

/-- The reply in an answer, for those who hold the token that it was sealed with. -/
def reply? : Option Reply := (Rpc.reply token g.method 0 (some g.answer)).toOption

/-- What an answer brings, if the request was accepted. -/
def news? : Option News := (g.reply? token).bind fun r => (Contact.news r).toOption

/-- The token that an answer brings. -/
def issued? : Option String := (g.news? token).bind (·.issued)

/-- A registration is answered with a token that was not there before. -/
def mints : Bool := g.method == .register && (g.reply? token).any (·.code == ResponseCode.ok.number)

/-- The answer is no longer than a byte string in memory can be. -/
def Portable : Prop := ∀ e ∈ g.answer.toOption, e.Portable

variable {token g}

/-- The one who called learns what the answer brings. -/
lemma toOption_outcome (rpcTimeout : Span) :
    (Contact.outcome token g.method rpcTimeout (some g.answer)).toOption = g.news? token := by
  obtain ⟨m, s | e, time⟩ := g
  · rfl
  · simp only [Contact.outcome, news?, reply?, Rpc.reply]
    cases Reply.open? token m e <;> rfl

/-- A reply that was sealed is read by whoever has the token. -/
lemma reply?_close {kind : KeyKind} {cluster sender : String} {m : Method} {r : Reply} {time : Instant}
    (hbody : r.body.Answers m)
    (h : Portable ⟨m, .ok (r.close kind token cluster sender m), time⟩) :
    reply? token ⟨m, .ok (r.close kind token cluster sender m), time⟩ = some r := by
  simp only [reply?, Rpc.reply, Reply.open?_close hbody (h _ rfl)]
  rfl

/-- The one who called learns what the reply brings. -/
lemma outcome_close {kind : KeyKind} {cluster sender : String} {m : Method} {r : Reply}
    (hbody : r.body.Answers m) (h : (r.close kind token cluster sender m).Portable) (rpcTimeout : Span) :
    Contact.outcome token m rpcTimeout (some (.ok (r.close kind token cluster sender m))) =
      Contact.news r := by
  simp only [Contact.outcome, Rpc.reply, Reply.open?_close hbody h]
  rfl

end Answered

/-! ### What is fixed -/

/-- Who a node is, and the name and the token of its cluster. -/
def PeerView.setting (v : PeerView) : Identity × String × String := (v.this, v.cluster.name, v.cluster.token)

namespace PeerView

@[simp] lemma setting_settle (v : PeerView) (c : Contact) (outcome : Except CallError News)
    (now : Instant) : (v.settle c outcome now).setting = v.setting := by
  obtain ⟨nodes, h⟩ := exists_mergePeers_eq
    (v.updateSide c.side c.node.name (Contact.settled outcome now)) (outcome.toOption.elim [] (·.peers)) now
  rw [settle_eq, h]
  cases c.side <;> rfl

/-- A registration does not change the setting of a node. -/
lemma setting_serveRegister (v : PeerView) (e : Envelope) (fresh : String) (now : Instant) :
    (v.serveRegister e fresh now).1.setting = v.setting := by
  change (v.this, (v.cluster.serveRegister v.this.name e fresh now).1.name,
    (v.cluster.serveRegister v.this.name e fresh now).1.token) = v.setting
  cases hopen : Request.open? v.cluster.token .register e with
  | error fault =>
    rw [Cluster.serveRegister_of_sealed hopen]
    rfl
  | ok r =>
    rw [Cluster.serveRegister_of_opened hopen, Cluster.name_answerRegister, Cluster.token_answerRegister]
    rfl

lemma setting_serveHeartbeat (v : PeerView) (e : Envelope) (now : Instant) :
    (v.serveHeartbeat e now).1.setting = v.setting := by
  change (v.this, (v.cluster.serveHeartbeat v.this.name e now).1.name,
    (v.cluster.serveHeartbeat v.this.name e now).1.token) = v.setting
  cases hopen : Request.open? v.cluster.token .heartbeat e with
  | error fault =>
    rw [Cluster.serveHeartbeat_of_sealed hopen]
    rfl
  | ok r =>
    rw [Cluster.serveHeartbeat_of_opened hopen, Cluster.name_answerHeartbeat,
      Cluster.token_answerHeartbeat]
    rfl

lemma setting_serveOperation {σ : Type} [ProxyEngine σ] [CertManager σ]
    (v : PeerView) (engine : σ) (o : Operation) (e : Envelope)
    (now : Instant) : (v.serveOperation engine o e now).1.setting = v.setting := by
  by_cases h : ∃ node r, v.Admits o e now node r
  · obtain ⟨node, r, h⟩ := h
    rw [serveOperation_of_admits h]
    rfl
  · obtain ⟨nodes, answer, -, -, hserve⟩ :=
      serveOperation_of_not_admits fun node r hr => h ⟨node, r, hr⟩
    rw [hserve engine]
    rfl

end PeerView

variable {σ : Type}

@[simp] lemma EndNode.setting_serve [ProxyEngine σ] [CertManager σ] (n : EndNode σ) (m : Method)
    (e : Envelope) (fresh : String) (now : Instant) :
    (n.serve m e fresh now).1.view.setting = n.view.setting := by
  cases m with
  | register => exact n.view.setting_serveRegister e fresh now
  | heartbeat => exact n.view.setting_serveHeartbeat e now
  | operate o => exact n.view.setting_serveOperation n.engine o e now

/-! ### Serving the requests of a contact -/

namespace EndNode

variable {n : EndNode σ} {who : Identity} {token presented fresh : String} {now : Instant}

/-- A registration of this node would be accepted. -/
def Welcomes (n : EndNode σ) (who : Identity) : Prop :=
  who.HasAddress ∧ who.name ≠ n.this.name ∧ who.cluster = n.view.cluster.name ∧
    ∀ node ∈ n.view.cluster.nodes.get? who.name, node.identity = who

/-- A heartbeat of this node with a token would be accepted. -/
def Recognizes (n : EndNode σ) (who : Identity) (token : String) (now : Instant) : Prop :=
  who.HasAddress ∧ token ≠ "" ∧ ∃ node, n.view.cluster.nodes.get? who.name = some node ∧
    node.identity = who ∧ node.inToken = token ∧ ∀ s ∈ node.heardAt, s.isRecent now = true

/-- How a node handles the request of another one: what it answers, and which record it keeps under the
name of the sender from then on. -/
inductive Handled (n : EndNode σ) (who : Identity) (presented fresh : String) (g : Answered) :
    Option Node → Prop
  | rejected (hmethod : g.method = .register) (hnews : g.news? n.view.cluster.token = none)
      (hmints : g.mints n.view.cluster.token = false) (h : ¬ n.Welcomes who) :
      Handled n who presented fresh g (n.view.cluster.nodes.get? who.name)
  | enrolled (node : Node) (hmethod : g.method = .register)
      (hold : ∀ old ∈ n.view.cluster.nodes.get? who.name, old.registeredLocalAt g.time = false)
      (hid : node.identity = who) (htoken : node.inToken = fresh) (hheard : node.heardAt = some g.time)
      (hnews : g.news? n.view.cluster.token = some ⟨some fresh, []⟩)
      (hmints : g.mints n.view.cluster.token = true) : Handled n who presented fresh g (some node)
  | renewed (old : Node) (hmethod : g.method = .register)
      (hold : n.view.cluster.nodes.get? who.name = some old) (hid : old.identity = who)
      (hlive : old.registeredLocalAt g.time = true)
      (hnews : g.news? n.view.cluster.token = some ⟨some old.inToken, []⟩)
      (hmints : g.mints n.view.cluster.token = false) :
      Handled n who presented fresh g (some (heard g.time old))
  | ignored (hmethod : g.method = .heartbeat) (hnews : g.news? n.view.cluster.token = none)
      (h : ¬ n.Recognizes who presented g.time) :
      Handled n who presented fresh g (n.view.cluster.nodes.get? who.name)
  | confirmed (old : Node) (peers : List Identity) (hmethod : g.method = .heartbeat)
      (hold : n.view.cluster.nodes.get? who.name = some old) (hid : old.identity = who)
      (htoken : old.inToken = presented) (hne : presented ≠ "")
      (hnews : g.news? n.view.cluster.token = some ⟨none, peers⟩) :
      Handled n who presented fresh g (some (heard g.time old))

/-! ### Registrations -/

lemma claimOf_of {call : Rpc.Call} (h : who.HasAddress) :
    claimOf ⟨some (.of presented who), call⟩ = .ok (who, presented) := by
  have hwho : (Wire.Identity.ofIdentity who).toIdentity = .ok who := toIdentity_eq_ok_iff.2 ⟨rfl, h⟩
  simp only [claimOf, Wire.AuthInfo.of, hwho]

/-- What is answered to a claim without an address. -/
abbrev addressFault (who : Identity) : RegisterError := .invalidAddress who.host who.port.toUInt32

/-- A caller without an address is refused before its token is looked at. -/
lemma claimOf_of_not_hasAddress {call : Rpc.Call} (h : ¬ who.HasAddress) :
    claimOf ⟨some (.of presented who), call⟩ =
      .error ((addressFault who).code, (addressFault who).message) := by
  have hwho : (Wire.Identity.ofIdentity who).toIdentity = .error (addressFault who) := by
    rw [Wire.Identity.toIdentity, if_neg]
    · rfl
    · rintro ⟨hport, -, hhost⟩
      exact h ⟨hhost, toUInt32_eq_zero_iff.not.1 hport⟩
  simp only [claimOf, Wire.AuthInfo.of, hwho]

/-- A registration without an address is turned down in the same words wherever this is noticed. -/
lemma answerRegister_of {c : Cluster} {server : String} {call : Rpc.Call} :
    c.answerRegister server ⟨some (.of presented who), call⟩ fresh now =
      ((c.register who presented server fresh now).1,
        registrationReply (c.register who presented server fresh now).2) := by
  by_cases haddress : who.HasAddress
  · exact Cluster.answerRegister_of_ok (claimOf_of haddress)
  · have hparts : who.host = "" ∨ who.port = 0 := by
      rw [Identity.HasAddress] at haddress
      tauto
    have hscreen : c.screen who presented server now = (c, .error (addressFault who)) := by
      rw [Cluster.screen, if_pos hparts]
    rw [Cluster.answerRegister_of_error (claimOf_of_not_hasAddress haddress), Cluster.register, hscreen]
    rfl

lemma answers_registrationReply (result : Except RegisterError Registration) :
    (registrationReply result).body.Answers .register := by
  cases result with
  | error e => exact Rpc.Body.answers_blank .register
  | ok r => trivial

lemma code_ne (e : RegisterError) : e.code ≠ .ok ∧ e.code ≠ .alreadyRegistered := by
  cases e <;> exact ⟨nofun, nofun⟩

lemma number_ne {c d : ResponseCode} (h : c ≠ d) : c.number ≠ d.number := by
  intro hnumber
  have hsome : ResponseCode.ofNumber? c.number = some d := by rw [hnumber, ResponseCode.ofNumber?_number]
  rw [ResponseCode.ofNumber?_number] at hsome
  exact h (Option.some.inj hsome)

/-- A refused registration brings no news. -/
lemma news_registrationReply_error (e : RegisterError) :
    Contact.news (registrationReply (.error e)) =
      .error (registrationReply (.error e)).rejection := by
  obtain ⟨hok, halready⟩ := code_ne e
  exact if_neg (not_or.2 ⟨number_ne hok, number_ne halready⟩)

/-- A registration that succeeds brings its token. -/
lemma news_registrationReply_ok (r : Registration) :
    Contact.news (registrationReply (.ok r)) = .ok ⟨some r.token, []⟩ := by
  refine if_pos ?_
  obtain ⟨token, _ | _⟩ := r
  · exact .inl rfl
  · exact .inr rfl

/-- A registration that opens is answered by the cluster. -/
lemma serve_of_registration [ProxyEngine σ] [CertManager σ] {e : Envelope} {call : Rpc.Call}
    (hopen : Request.open? n.view.cluster.token .register e = .ok ⟨some (.of presented who), call⟩) :
    n.serve .register e fresh now =
      ({ n with view.cluster := (n.view.cluster.register who presented n.this.name fresh now).1 },
        .ok ((registrationReply (n.view.cluster.register who presented n.this.name fresh now).2).close
          .cluster n.view.cluster.token n.view.cluster.name n.this.name .register)) := by
  simp only [serve, PeerView.serveRegister, Cluster.serveRegister_of_opened hopen, Cluster.sealReply,
    answerRegister_of, Cluster.token_register, Cluster.name_register, this]

/-- Whoever is welcome is registered. -/
lemma exists_register_of_welcomes (h : n.Welcomes who) (fresh : String) (now : Instant) :
    ∃ r, (n.view.cluster.register who n.view.cluster.token n.this.name fresh now).2 = .ok r := by
  obtain ⟨haddress, hname, hcluster, hknown⟩ := h
  have hscreen : (n.view.cluster.screen who n.view.cluster.token n.this.name now).2 = .ok () :=
    Cluster.screen_eq_ok_iff.2 ⟨haddress, hname, hcluster, rfl⟩
  cases hget : n.view.cluster.nodes.get? who.name with
  | none => exact ⟨_, Cluster.register_eq_ok_iff.2 ⟨hscreen, .inl ⟨hget, rfl⟩⟩⟩
  | some node =>
    exact ⟨_, Cluster.register_eq_ok_iff.2 ⟨hscreen, .inr ⟨node, hget, hknown node hget, rfl⟩⟩⟩

lemma news?_of_registrationReply {g : Answered} {result : Except RegisterError Registration}
    (h : g.reply? token = some (registrationReply result)) :
    g.news? token = result.toOption.map fun r => ⟨some r.token, []⟩ := by
  cases result with
  | error e => simp [Answered.news?, h, news_registrationReply_error, Except.toOption]
  | ok r => simp [Answered.news?, h, news_registrationReply_ok, Except.toOption]

/-- A registration issues a token unless the caller had one already. -/
lemma mints_of_registrationReply {g : Answered} {result : Except RegisterError Registration}
    (hmethod : g.method = .register) (h : g.reply? token = some (registrationReply result)) :
    g.mints token = result.toOption.any (!·.alreadyRegistered) := by
  cases result with
  | error e =>
    have hcode : (registrationReply (.error e)).code ≠ ResponseCode.ok.number :=
      number_ne (code_ne e).1
    simp [Answered.mints, h, hcode, Except.toOption]
  | ok r =>
    have hcode : (registrationReply (.ok r)).code = r.code.number := rfl
    have hne : ResponseCode.alreadyRegistered.number ≠ ResponseCode.ok.number := number_ne (by decide)
    obtain ⟨token, _ | _⟩ := r
    · simp [Answered.mints, h, hmethod, hcode, Registration.code, Except.toOption]
    · simpa [Answered.mints, h, hmethod, hcode, Registration.code, Except.toOption] using hne

lemma handled_of_register {g : Answered} (hmethod : g.method = .register)
    (hreply : g.reply? n.view.cluster.token = some (registrationReply
      (n.view.cluster.register who n.view.cluster.token n.this.name fresh g.time).2)) :
    n.Handled who presented fresh g
      ((n.view.cluster.register who n.view.cluster.token n.this.name fresh g.time).1.nodes.get?
        who.name) := by
  have hnews := news?_of_registrationReply hreply
  have hmints := mints_of_registrationReply hmethod hreply
  cases hregister : (n.view.cluster.register who n.view.cluster.token n.this.name fresh g.time).2 with
  | error fault =>
    rw [hregister] at hnews hmints
    rw [Cluster.get?_register_of_error hregister]
    refine .rejected hmethod hnews hmints fun hwelcome => ?_
    obtain ⟨r, hr⟩ := exists_register_of_welcomes hwelcome fresh g.time
    rw [hr] at hregister
    cases hregister
  | ok r =>
    rw [hregister] at hnews hmints
    have hid := Cluster.identity_admitted_of_ok hregister r.token g.time
    rw [Cluster.get?_register_of_ok hregister, if_pos rfl]
    obtain ⟨-, ⟨hget, rfl⟩ | ⟨old, hget, hold, hr⟩⟩ := Cluster.register_eq_ok_iff.1 hregister
    · exact .enrolled _ hmethod (by simp [hget]) hid (by simp) (by simp) hnews hmints
    · -- only a live record keeps its token
      cases hlive : old.registeredLocalAt g.time with
      | true =>
        rw [if_pos hlive] at hr
        subst hr
        rw [hget]
        exact .renewed old hmethod hget hold hlive hnews hmints
      | false =>
        rw [hlive] at hr
        obtain rfl : r = ⟨fresh, false⟩ := hr
        exact .enrolled _ hmethod (by simpa [hget] using hlive) hid (by simp) (by simp) hnews hmints

/-- How a registration is handled. -/
lemma handled_registration [ProxyEngine σ] [CertManager σ] {e : Envelope} {call : Rpc.Call}
    (htoken : n.view.cluster.token = token)
    (hopen : Request.open? token .register e = .ok ⟨some (.of token who), call⟩)
    (h : Answered.Portable ⟨.register, (n.serve .register e fresh now).2, now⟩) :
    n.Handled who presented fresh ⟨.register, (n.serve .register e fresh now).2, now⟩
      ((n.serve .register e fresh now).1.view.cluster.nodes.get? who.name) := by
  subst htoken
  rw [serve_of_registration hopen] at h ⊢
  exact handled_of_register rfl (Answered.reply?_close (answers_registrationReply _) h)

/-! ### Heartbeats -/

lemma serve_of_heartbeat [ProxyEngine σ] [CertManager σ] {e : Envelope} {r : Request}
    (hopen : Request.open? n.view.cluster.token .heartbeat e = .ok r) :
    n.serve .heartbeat e fresh now =
      ({ n with view.cluster := (n.view.cluster.answerHeartbeat r now).1 },
        .ok ((n.view.cluster.answerHeartbeat r now).2.close .cluster n.view.cluster.token
          n.view.cluster.name n.this.name .heartbeat)) := by
  simp only [serve, PeerView.serveHeartbeat, Cluster.serveHeartbeat_of_opened hopen, Cluster.sealReply,
    Cluster.token_answerHeartbeat, Cluster.name_answerHeartbeat, this]

lemma answers_answerHeartbeat (c : Cluster) (r : Request) (now : Instant) :
    (c.answerHeartbeat r now).2.body.Answers .heartbeat := by
  cases hclaim : claimOf r with
  | error fault =>
    rw [Cluster.answerHeartbeat_of_error hclaim]
    exact Rpc.Body.answers_blank .heartbeat
  | ok claim =>
    rw [Cluster.answerHeartbeat_of_ok hclaim]
    cases (c.heartbeat claim.1 claim.2 now).2 with
    | error fault => exact Rpc.Body.answers_blank .heartbeat
    | ok peers => trivial

/-- A refused heartbeat brings no news. -/
lemma news_heartbeat_failure {code : ResponseCode} (h : code ≠ .ok) (msg : String) :
    (Contact.news (.failure .heartbeat code msg)).toOption = none := by
  have hcode : Contact.news (.failure .heartbeat code msg) =
      .error (Reply.failure .heartbeat code msg).rejection := if_neg (number_ne h)
  rw [hcode]
  rfl

lemma handled_of_answerHeartbeat {g : Answered} {call : Rpc.Call} (hmethod : g.method = .heartbeat)
    (hreply : g.reply? n.view.cluster.token =
      some (n.view.cluster.answerHeartbeat ⟨some (.of presented who), call⟩ g.time).2) :
    n.Handled who presented fresh g
      ((n.view.cluster.answerHeartbeat ⟨some (.of presented who), call⟩ g.time).1.nodes.get?
        who.name) := by
  by_cases haddress : who.HasAddress
  · rw [Cluster.answerHeartbeat_of_ok (claimOf_of haddress)] at hreply ⊢
    rw [Cluster.heartbeat_fst]
    cases hauth : (n.view.cluster.authenticate who presented g.time).2 with
    | error fault =>
      rw [Cluster.heartbeat_of_error hauth] at hreply
      rw [Cluster.get?_authenticate_of_error hauth]
      refine .ignored hmethod ?_ ?_
      · rw [Answered.news?, hreply]
        exact news_heartbeat_failure (by cases fault <;> exact nofun) _
      · -- what a node is recognized by is what `authenticate` checks
        rintro ⟨-, hne, node, hget, hid, htoken, hrecent⟩
        have hok : (n.view.cluster.authenticate who presented g.time).2 = .ok (heard g.time node) :=
          Cluster.authenticate_eq_ok_iff.2 ⟨node, hget,
            Cluster.credentialFault?_eq_none_iff.2 ⟨hid, hne, htoken, hrecent⟩, rfl⟩
        rw [hok] at hauth
        cases hauth
    | ok node =>
      obtain ⟨old, hget, hfault, rfl⟩ := Cluster.authenticate_eq_ok_iff.1 hauth
      obtain ⟨hid, hne, htoken, -⟩ := Cluster.credentialFault?_eq_none_iff.1 hfault
      rw [Cluster.heartbeat_of_ok hauth] at hreply
      rw [Cluster.get?_authenticate_of_ok hauth, if_pos rfl]
      have hnews : ∃ peers, g.news? n.view.cluster.token = some ⟨none, peers⟩ := by
        rw [Answered.news?, hreply]
        exact ⟨_, rfl⟩
      obtain ⟨peers, hnews⟩ := hnews
      exact .confirmed old peers hmethod hget hid htoken hne hnews
  · have hclaim : claimOf ⟨some (.of presented who), call⟩ = _ := claimOf_of_not_hasAddress haddress
    rw [Cluster.answerHeartbeat_of_error hclaim] at hreply ⊢
    refine .ignored hmethod ?_ fun h => haddress h.1
    rw [Answered.news?, hreply]
    exact news_heartbeat_failure (code_ne (addressFault who)).1 (addressFault who).message

/-- How a heartbeat is handled. -/
lemma handled_heartbeat [ProxyEngine σ] [CertManager σ] {e : Envelope} {call : Rpc.Call}
    (htoken : n.view.cluster.token = token)
    (hopen : Request.open? token .heartbeat e = .ok ⟨some (.of presented who), call⟩)
    (h : Answered.Portable ⟨.heartbeat, (n.serve .heartbeat e fresh now).2, now⟩) :
    n.Handled who presented fresh ⟨.heartbeat, (n.serve .heartbeat e fresh now).2, now⟩
      ((n.serve .heartbeat e fresh now).1.view.cluster.nodes.get? who.name) := by
  subst htoken
  rw [serve_of_heartbeat hopen] at h ⊢
  exact handled_of_answerHeartbeat rfl (Answered.reply?_close (answers_answerHeartbeat _ _ _) h)

/-! ### Welcome nodes -/

/-- Handling a request does not change the identity of the caller's record. -/
lemma Handled.identity_eq {g : Answered} {after : Option Node} (h : n.Handled who presented fresh g after)
    (hknown : ∀ node ∈ n.view.cluster.nodes.get? who.name, node.identity = who) :
    ∀ node ∈ after, node.identity = who := by
  cases h with
  | rejected | ignored => exact hknown
  | enrolled node _ _ hid => exact fun found hfound => Option.some.inj hfound ▸ hid
  | renewed old _ _ hid | confirmed old _ _ _ hid =>
    rintro found hfound
    obtain rfl := Option.some.inj hfound
    exact hid

/-- Somebody stays welcome as long as the record under the name is their own. -/
lemma Welcomes.of_get? {n' : EndNode σ} (h : n.Welcomes who) (hsetting : n'.view.setting = n.view.setting)
    (hget : ∀ node ∈ n'.view.cluster.nodes.get? who.name, node.identity = who) : n'.Welcomes who := by
  obtain ⟨haddress, hname, hcluster, -⟩ := h
  have hthis : n'.this = n.this := congrArg Prod.fst hsetting
  have hcluster' : n'.view.cluster.name = n.view.cluster.name := congrArg (·.2.1) hsetting
  exact ⟨haddress, by rwa [hthis], by rwa [hcluster'], hget⟩

/-- A node that is welcome stays so whatever it asks for. -/
lemma Welcomes.of_handled {n' : EndNode σ} {g : Answered} (h : n.Welcomes who)
    (hsetting : n'.view.setting = n.view.setting)
    (hhandled : n.Handled who presented fresh g (n'.view.cluster.nodes.get? who.name)) :
    n'.Welcomes who :=
  h.of_get? hsetting (hhandled.identity_eq h.2.2.2)

/-- A node that is welcome stays so when its record is dropped. -/
lemma Welcomes.evict (h : n.Welcomes who) (now : Instant) :
    ({ n with view := (n.view.evict now).1 } : EndNode σ).Welcomes who := by
  refine h.of_get? rfl fun node hnode => h.2.2.2 node ?_
  have hget : ({ n with view := (n.view.evict now).1 } : EndNode σ).view.cluster.nodes.get? who.name =
      (n.view.cluster.nodes.get? who.name).filter (·.survivesAt now) := Roster.get?_filter ..
  rw [hget, Option.mem_def, Option.filter_eq_some_iff] at hnode
  exact hnode.1

end EndNode

end Flotilla
