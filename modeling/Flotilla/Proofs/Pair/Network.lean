import Flotilla.Proofs.Service.Handling

/-!
# A node and a peer that it contacts

A node contacts a peer time and again, one contact after the other, over a network that loses, delays,
duplicates and reorders requests and answers as it likes.  Meanwhile both drop stale records.  `Pair.Turn`
says all that an event may do to the two of them.
-/

namespace Flotilla

open Rpc (Answer Method Request)

/-! ### The pair -/

/-- A node with a peer that it contacts: the contact that waits for its answer, with the instant of its
call, and all requests and answers that were ever sent, the latest first. -/
structure Pair (σ τ : Type) where
  caller : EndNode σ
  callee : EndNode τ
  pending : Option (Contact × Instant)
  sent : List (Method × Envelope)
  given : List Answered

namespace Pair

/-- What may happen to a pair. -/
inductive Event where
  /-- The caller contacts the callee, unless its last contact still waits. -/
  | call (now : Instant)
  /-- A request arrives, not for the first time perhaps; `fresh` is the token to issue if one is needed. -/
  | deliver (place : ℕ) (fresh : String) (now : Instant)
  /-- An answer arrives, to this call or to an earlier one of the method. -/
  | land (place : ℕ) (now : Instant)
  /-- The contact ends with a status, or without an answer in time. -/
  | miss (failure : Option Rpc.Status) (now : Instant)
  /-- The callee drops stale records. -/
  | evict (now : Instant)
  /-- The caller drops stale records. -/
  | evictCaller (now : Instant)

variable {σ τ : Type}

/-- Two nodes that have not exchanged anything yet. -/
def start (caller : EndNode σ) (callee : EndNode τ) : Pair σ τ := ⟨caller, callee, none, [], []⟩

variable (p : Pair σ τ)

/-- The record that the caller keeps of the callee. -/
def calleeRecord? : Option Node := p.caller.view.cluster.nodes.get? p.callee.this.name

/-- The record that the callee keeps of the caller. -/
def callerRecord? : Option Node := p.callee.view.cluster.nodes.get? p.caller.this.name

def clusterToken : String := p.caller.view.cluster.token

/-- The contact comes to its end. -/
def settle (c : Contact) (called : Instant) (answer : Option Answer) (now : Instant) : Pair σ τ :=
  let outcome := Contact.outcome p.clusterToken (c.method called) p.caller.intervals.rpcTimeout answer
  { p with caller.view := p.caller.view.settle c outcome now, pending := none }

section Step

variable [ProxyEngine τ] [CertManager τ]

def step (p : Pair σ τ) : Event → Pair σ τ
  | .call now =>
    match p.pending, p.calleeRecord? with
    | none, some node =>
      let c : Contact := ⟨.peers, node⟩
      { p with
        pending := some (c, now)
        sent := (c.method now, c.envelope p.caller.this p.clusterToken now) :: p.sent }
    | _, _ => p
  | .deliver place fresh now =>
    match p.sent[place]? with
    | none => p
    | some (m, e) =>
      let (callee, answer) := p.callee.serve m e fresh now
      { p with callee, given := ⟨m, answer, now⟩ :: p.given }
  | .land place now =>
    match p.pending, p.given[place]? with
    | some (c, called), some g =>
      if g.method = c.method called then p.settle c called (some g.answer) now else p
    | _, _ => p
  | .miss failure now =>
    match p.pending with
    | none => p
    | some (c, called) => p.settle c called (failure.map .error) now
  | .evict now => { p with callee.view := (p.callee.view.evict now).1 }
  | .evictCaller now => { p with caller.view := (p.caller.view.evict now).1 }

def run (es : List Event) : Pair σ τ := es.foldl step p

@[simp] lemma run_nil : p.run [] = p := rfl

@[simp] lemma run_cons (e : Event) (es : List Event) : p.run (e :: es) = (p.step e).run es := rfl

lemma run_append (es es' : List Event) : p.run (es ++ es') = (p.run es).run es' :=
  List.foldl_append

end Step

/-- No message of a pair is longer than a byte string in memory can be. -/
def Portable : Prop := (∀ s ∈ p.sent, s.2.Portable) ∧ ∀ g ∈ p.given, g.Portable

/-! ### Requests -/

def registration : Method × Envelope :=
  (.register, (⟨some (.of p.clusterToken p.caller.this), .register⟩ : Request).close .cluster
    p.clusterToken p.caller.this.cluster p.caller.this.name)

def heartbeat (token : String) : Method × Envelope :=
  (.heartbeat, (⟨some (.of token p.caller.this), .heartbeat⟩ : Request).close .cluster
    p.clusterToken p.caller.this.cluster p.caller.this.name)

/-- What a contact with the record of the callee sends. -/
def request (node : Node) (now : Instant) : Method × Envelope :=
  if node.registeredRemoteAt now then p.heartbeat node.outToken else p.registration

/-- The request of a contact depends on the record that it was planned for. -/
lemma request_eq (side : Side) (node : Node) (now : Instant) :
    (Contact.method ⟨side, node⟩ now, Contact.envelope ⟨side, node⟩ p.caller.this p.clusterToken now) =
      p.request node now := by
  rw [request, Contact.method, Contact.envelope, Contact.request]
  split_ifs <;> rfl

variable {p} {now : Instant}

/-! ### The end of a contact -/

section Settle

variable (c : Contact) (called : Instant) (answer : Option Answer) (now : Instant)

@[simp] lemma this_settle : (p.settle c called answer now).caller.this = p.caller.this :=
  congrArg Prod.fst (PeerView.setting_settle _ _ _ _)

@[simp] lemma clusterToken_settle : (p.settle c called answer now).clusterToken = p.clusterToken :=
  congrArg (·.2.2) (PeerView.setting_settle _ _ _ _)

@[simp] lemma sent_settle : (p.settle c called answer now).sent = p.sent := rfl

@[simp] lemma given_settle : (p.settle c called answer now).given = p.given := rfl

@[simp] lemma registration_settle : (p.settle c called answer now).registration = p.registration := by
  simp [registration]

@[simp] lemma heartbeat_settle (token : String) :
    (p.settle c called answer now).heartbeat token = p.heartbeat token := by
  simp [heartbeat]

@[simp] lemma callerRecord?_settle : (p.settle c called answer now).callerRecord? = p.callerRecord? := by
  rw [callerRecord?, this_settle]
  rfl

end Settle

/-- After a contact the caller has its old record of the callee, settled or not, or a fresh one. -/
lemma calleeRecord?_settle {c : Contact} {called : Instant} {answer : Option Answer} {node : Node}
    (h : (p.settle c called answer now).calleeRecord? = some node) :
    (∃ peer, node = .new peer now) ∨ ∃ old, p.calleeRecord? = some old ∧
      (node = old ∨ node = Contact.settled
        (Contact.outcome p.clusterToken (c.method called) p.caller.intervals.rpcTimeout answer) now old) := by
  have hget : ((p.settle c called answer now).caller.view.roster .peers).get? p.callee.this.name =
    some node := h
  rcases PeerView.get?_settle hget with hnew | ⟨old, hold, rfl⟩
  · exact .inl hnew
  · refine .inr ⟨old, hold, ?_⟩
    split_ifs
    · exact .inr rfl
    · exact .inl rfl

/-- A contact that was planned with the record of the callee is settled in it. -/
lemma calleeRecord?_settle_of_some {node old : Node} {called : Instant} {answer : Option Answer}
    (hold : p.calleeRecord? = some old) (hname : node.name = p.callee.this.name) :
    (p.settle ⟨.peers, node⟩ called answer now).calleeRecord? =
      some (Contact.settled (Contact.outcome p.clusterToken (Contact.method ⟨.peers, node⟩ called)
        p.caller.intervals.rpcTimeout answer) now old) := by
  have hsettle := PeerView.get?_settle_of_some (c := ⟨.peers, node⟩) hold
    (Contact.outcome p.clusterToken (Contact.method ⟨.peers, node⟩ called)
      p.caller.intervals.rpcTimeout answer) now
  rw [if_pos ⟨rfl, hname⟩] at hsettle
  exact hsettle

/-! ### Turns -/

variable [ProxyEngine τ] [CertManager τ] {q : Pair σ τ} {e : Event}

/-- All that an event may do to a pair. -/
inductive Turn (p : Pair σ τ) : Event → Pair σ τ → Prop
  | idle (e : Event) : Turn p e p
  | call {now : Instant} {node : Node} (hpending : p.pending = none)
      (hnode : p.calleeRecord? = some node) :
      Turn p (.call now)
        { p with pending := some (⟨.peers, node⟩, now), sent := p.request node now :: p.sent }
  | deliver {place : ℕ} {fresh : String} {now : Instant} {m : Method} {e : Envelope}
      (hplace : p.sent[place]? = some (m, e)) :
      Turn p (.deliver place fresh now)
        { p with
          callee := (p.callee.serve m e fresh now).1
          given := ⟨m, (p.callee.serve m e fresh now).2, now⟩ :: p.given }
  | land {place : ℕ} {now called : Instant} {c : Contact} {g : Answered}
      (hpending : p.pending = some (c, called)) (hplace : p.given[place]? = some g)
      (hmethod : g.method = c.method called) :
      Turn p (.land place now) (p.settle c called (some g.answer) now)
  | miss {failure : Option Rpc.Status} {now called : Instant} {c : Contact}
      (hpending : p.pending = some (c, called)) :
      Turn p (.miss failure now) (p.settle c called (failure.map .error) now)
  | evict {now : Instant} :
      Turn p (.evict now) { p with callee.view := (p.callee.view.evict now).1 }
  | evictCaller {now : Instant} :
      Turn p (.evictCaller now) { p with caller.view := (p.caller.view.evict now).1 }

/-- A call can be made as long as the caller has a record and no other call is under way. -/
lemma step_call {node : Node} (hpending : p.pending = none) (hnode : p.calleeRecord? = some node)
    (now : Instant) :
    p.step (.call now) =
      { p with pending := some (⟨.peers, node⟩, now), sent := p.request node now :: p.sent } := by
  simp only [step, hpending, hnode, ← p.request_eq .peers node now]

/-- A message that was sent may be delivered, again and again. -/
lemma step_deliver {place : ℕ} {m : Method} {e : Envelope} (hplace : p.sent[place]? = some (m, e))
    (fresh : String) (now : Instant) :
    p.step (.deliver place fresh now) =
      { p with
        callee := (p.callee.serve m e fresh now).1
        given := ⟨m, (p.callee.serve m e fresh now).2, now⟩ :: p.given } := by
  simp only [step, hplace]

lemma step_land {place : ℕ} {c : Contact} {called : Instant} {g : Answered}
    (hpending : p.pending = some (c, called)) (hplace : p.given[place]? = some g)
    (hmethod : g.method = c.method called) (now : Instant) :
    p.step (.land place now) = p.settle c called (some g.answer) now := by
  simp only [step, hpending, hplace, hmethod, if_true]

lemma turn_step (p : Pair σ τ) (e : Event) : p.Turn e (p.step e) := by
  cases e with
  | call now =>
    match hpending : p.pending, hnode : p.calleeRecord? with
    | none, some node =>
      rw [step_call hpending hnode]
      exact .call hpending hnode
    | none, none =>
      simp only [step, hpending, hnode]
      exact .idle _
    | some _, _ =>
      simp only [step, hpending]
      exact .idle _
  | deliver place fresh now =>
    cases hplace : p.sent[place]? with
    | none =>
      simp only [step, hplace]
      exact .idle _
    | some s =>
      rw [step_deliver hplace]
      exact .deliver hplace
  | land place now =>
    match hpending : p.pending, hplace : p.given[place]? with
    | some (c, called), some g =>
      by_cases hmethod : g.method = c.method called
      · rw [step_land hpending hplace hmethod]
        exact .land hpending hplace hmethod
      · simp only [step, hpending, hplace, if_neg hmethod]
        exact .idle _
    | some _, none =>
      simp only [step, hpending, hplace]
      exact .idle _
    | none, _ =>
      simp only [step, hpending]
      exact .idle _
  | miss failure now =>
    cases hpending : p.pending with
    | none =>
      simp only [step, hpending]
      exact .idle _
    | some waiting =>
      simp only [step, hpending]
      exact .miss hpending
  | evict now => exact .evict
  | evictCaller now => exact .evictCaller

/-! ### What is fixed for a pair -/

/-- No turn changes the setting of the caller. -/
lemma Turn.setting_caller (h : p.Turn e q) : q.caller.view.setting = p.caller.view.setting := by
  cases h with
  | land | miss => exact PeerView.setting_settle _ _ _ _
  | idle | call | deliver | evict | evictCaller => rfl

lemma Turn.setting_callee (h : p.Turn e q) : q.callee.view.setting = p.callee.view.setting := by
  cases h with
  | deliver => exact EndNode.setting_serve _ _ _ _ _
  | idle | call | land | miss | evict | evictCaller => rfl

@[simp] lemma this_caller_step (p : Pair σ τ) (e : Event) : (p.step e).caller.this = p.caller.this :=
  congrArg Prod.fst (p.turn_step e).setting_caller

@[simp] lemma clusterToken_step (p : Pair σ τ) (e : Event) : (p.step e).clusterToken = p.clusterToken :=
  congrArg (·.2.2) (p.turn_step e).setting_caller

@[simp] lemma this_callee_step (p : Pair σ τ) (e : Event) : (p.step e).callee.this = p.callee.this :=
  congrArg Prod.fst (p.turn_step e).setting_callee

@[simp] lemma token_callee_step (p : Pair σ τ) (e : Event) :
    (p.step e).callee.view.cluster.token = p.callee.view.cluster.token :=
  congrArg (·.2.2) (p.turn_step e).setting_callee

/-- What can be carried after a turn could be carried before it. -/
lemma Turn.portable (h : p.Turn e q) (hq : q.Portable) : p.Portable := by
  obtain ⟨hsent, hgiven⟩ := hq
  cases h with
  | call => exact ⟨fun s hs => hsent s (List.mem_cons_of_mem _ hs), hgiven⟩
  | deliver => exact ⟨hsent, fun g hg => hgiven g (List.mem_cons_of_mem _ hg)⟩
  | idle | land | miss | evict | evictCaller => exact ⟨hsent, hgiven⟩

lemma Portable.of_run {es : List Event} (h : (p.run es).Portable) : p.Portable := by
  induction es generalizing p with
  | nil => exact h
  | cons e es ih => exact (p.turn_step e).portable (ih h)

/-- An answer that arrives sends nothing. -/
lemma Turn.portable_of_land {place : ℕ} (h : p.Turn (.land place now) q) (hp : p.Portable) :
    q.Portable := by
  cases h with
  | idle | land => exact hp

/-! ### Requests that arrive -/

/-- The callee handles the requests of the caller as those of the node that it is. -/
lemma handled_serve (presented : String) {m : Method} {e : Envelope} {fresh : String}
    (htoken : p.callee.view.cluster.token = p.clusterToken)
    (hs : (m, e) = p.registration ∨ (m, e) = p.heartbeat presented) (he : e.Portable)
    (h : Answered.Portable ⟨m, (p.callee.serve m e fresh now).2, now⟩) :
    p.callee.Handled p.caller.this presented fresh ⟨m, (p.callee.serve m e fresh now).2, now⟩
      ((p.callee.serve m e fresh now).1.view.cluster.nodes.get? p.caller.this.name) := by
  rcases hs with hs | hs
  · cases hs
    have hopen := Request.open?_close he
    exact EndNode.handled_registration htoken hopen h
  · cases hs
    have hopen := Request.open?_close he
    exact EndNode.handled_heartbeat htoken hopen h

/-- A registration that arrives is answered by the cluster of the callee. -/
lemma step_deliver_registration (place : ℕ) (htoken : p.callee.view.cluster.token = p.clusterToken)
    (hplace : p.sent[place]? = some p.registration) (h : p.registration.2.Portable) (fresh : String)
    (now : Instant) :
    p.step (.deliver place fresh now) =
      let result := p.callee.view.cluster.register p.caller.this p.clusterToken p.callee.this.name fresh now
      { p with
        callee := { p.callee with view.cluster := result.1 }
        given := ⟨.register, .ok ((Cluster.registrationReply result.2).close .cluster p.clusterToken
          p.callee.view.cluster.name p.callee.this.name .register), now⟩ :: p.given } := by
  have hopen := Request.open?_close h
  have hopen' : Request.open? p.callee.view.cluster.token .register p.registration.2 =
      .ok ⟨some (.of p.clusterToken p.caller.this), .register⟩ := by
    rw [htoken]
    exact hopen
  have hplace' : p.sent[place]? = some (.register, p.registration.2) := hplace
  rw [step_deliver hplace', EndNode.serve_of_registration hopen', htoken]

/-- A heartbeat that arrives is answered by the cluster of the callee. -/
lemma step_deliver_heartbeat (place : ℕ) {token : String}
    (htoken : p.callee.view.cluster.token = p.clusterToken)
    (hplace : p.sent[place]? = some (p.heartbeat token)) (h : (p.heartbeat token).2.Portable)
    (fresh : String) (now : Instant) :
    p.step (.deliver place fresh now) =
      let result := p.callee.view.cluster.answerHeartbeat ⟨some (.of token p.caller.this), .heartbeat⟩ now
      { p with
        callee := { p.callee with view.cluster := result.1 }
        given := ⟨.heartbeat, .ok (result.2.close .cluster p.clusterToken p.callee.view.cluster.name
          p.callee.this.name .heartbeat), now⟩ :: p.given } := by
  have hopen := Request.open?_close h
  have hopen' : Request.open? p.callee.view.cluster.token .heartbeat (p.heartbeat token).2 =
      .ok ⟨some (.of token p.caller.this), .heartbeat⟩ := by
    rw [htoken]
    exact hopen
  have hplace' : p.sent[place]? = some (.heartbeat, (p.heartbeat token).2) := hplace
  rw [step_deliver hplace', EndNode.serve_of_heartbeat hopen', htoken]

/-! ### Two nodes -/

def thisOne : Identity := ⟨"a", "10.0.0.1", 5000, "prod"⟩

def otherOne : Identity := ⟨"b", "10.0.0.2", 5000, "prod"⟩

def one (peer : Node) : EndNode Unconfigured :=
  { (default : EndNode Unconfigured) with
    view := { PeerView.new thisOne "s" with cluster.nodes := Roster.empty.insert "b" peer } }

lemma get?_one (peer : Node) : (one peer).view.cluster.nodes.get? "b" = some peer :=
  (Roster.get?_insert ..).trans (if_pos rfl)

/-- The peer, with the records that it keeps. -/
def two (nodes : Roster) : EndNode Unconfigured :=
  { (default : EndNode Unconfigured) with view := { PeerView.new otherOne "s" with cluster.nodes := nodes } }

def enrolment : Method × Envelope := (start (one (.fixed otherOne 0)) (two .empty)).registration

lemma portable_enrolment : enrolment.2.Portable := Envelope.portable_close_iff.2 (by decide +kernel)

end Pair

end Flotilla
