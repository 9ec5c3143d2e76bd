import Flotilla.Proofs.Pair.Network

/-!
# Two nodes find each other again

The two records that a pair of nodes keep of each other may hold any tokens and times.  A contact that is
answered either makes them match or makes the node forget its token; and once it has none, the next contact
is a registration, which makes them match.  From then on every contact that comes in time keeps them so.
-/

namespace Flotilla

open Rpc (Answer Method)
open Cluster (heard)

namespace Pair

/-! ### Contacts that are answered -/

/-- One of the two drops stale records. -/
inductive Pass where
  | callee (now : Instant)
  | caller (now : Instant)

namespace Pass

def event : Pass → Event
  | .callee now => .evict now
  | .caller now => .evictCaller now

/-- A record that the callee holds survives the pass. -/
def spares (node : Node) : Pass → Bool
  | .callee now => node.survivesAt now
  | .caller _ => true

end Pass

/-- A contact whose request and answer arrive: when it happens, the token to issue if one is needed, and
the passes of both nodes before the call, before the request arrives, and before the answer. -/
structure Round where
  called : Instant
  served : Instant
  landed : Instant
  fresh : String
  idle : List Pass
  outbound : List Pass
  inbound : List Pass

/-- What happens in a round. -/
def Round.events (r : Round) : List Event :=
  r.idle.map Pass.event ++ .call r.called ::
    (r.outbound.map Pass.event ++ .deliver 0 r.fresh r.served ::
      (r.inbound.map Pass.event ++ [.land 0 r.landed]))

/-- A record that the callee holds survives all passes. -/
def Survives (ps : List Pass) (node : Node) : Bool := ps.all (·.spares node)

/-- Passes that come one after the other are survived one after the other. -/
lemma survives_append (ps ps' : List Pass) :
    Survives (ps ++ ps') = fun node => Survives ps node && Survives ps' node :=
  funext fun _ => List.all_append

/-- A record survives all passes within a minute of its last signal. -/
lemma survives_of_heardAt {node : Node} {s : Instant} {ps : List Pass} (hheard : node.heardAt = some s)
    (hps : ∀ t, .callee t ∈ ps → s.isRecent t = true) : Survives ps node = true := by
  refine List.all_eq_true.2 fun pass hpass => ?_
  cases pass with
  | callee t => simp [Pass.spares, Node.survivesAt, Node.isValidAt, hheard, hps t hpass]
  | caller t => rfl

variable {σ τ : Type} {p q : Pair σ τ} {node record : Node}

/-- What passes come to if the caller keeps its record: the callee loses the records that do not survive. -/
structure Passed (p : Pair σ τ) (ps : List Pass) (q : Pair σ τ) : Prop where
  pending_eq : q.pending = p.pending
  sent_eq : q.sent = p.sent
  given_eq : q.given = p.given
  caller_eq : q.caller.view.setting = p.caller.view.setting
  callee_eq : q.callee.view.setting = p.callee.view.setting
  calleeRecord?_eq : q.calleeRecord? = p.calleeRecord?
  get?_eq : ∀ name, q.callee.view.cluster.nodes.get? name =
    (p.callee.view.cluster.nodes.get? name).filter (Survives ps)

namespace Passed

variable {ps ps' : List Pass}

lemma refl (p : Pair σ τ) : p.Passed [] p := by
  refine ⟨rfl, rfl, rfl, rfl, rfl, rfl, fun name => ?_⟩
  cases p.callee.view.cluster.nodes.get? name <;> rfl

/-- What comes of passes may be put together. -/
lemma trans {middle : Pair σ τ} (h : p.Passed ps middle) (h' : middle.Passed ps' q) :
    p.Passed (ps ++ ps') q where
  pending_eq := h'.pending_eq.trans h.pending_eq
  sent_eq := h'.sent_eq.trans h.sent_eq
  given_eq := h'.given_eq.trans h.given_eq
  caller_eq := h'.caller_eq.trans h.caller_eq
  callee_eq := h'.callee_eq.trans h.callee_eq
  calleeRecord?_eq := h'.calleeRecord?_eq.trans h.calleeRecord?_eq
  get?_eq name := by rw [h'.get?_eq, h.get?_eq, Option.filter_filter, survives_append]

/-- Passes have nothing to do with what is under way. -/
lemma sending (h : p.Passed ps q) (pending : Option (Contact × Instant)) (sent : List (Method × Envelope)) :
    ({ p with pending, sent } : Pair σ τ).Passed ps { q with pending, sent } :=
  ⟨rfl, rfl, h.given_eq, h.caller_eq, h.callee_eq, h.calleeRecord?_eq, h.get?_eq⟩

lemma this_eq (h : p.Passed ps q) : q.caller.this = p.caller.this := congrArg Prod.fst h.caller_eq

lemma clusterToken_eq (h : p.Passed ps q) : q.clusterToken = p.clusterToken :=
  congrArg (·.2.2) h.caller_eq

/-- The caller would ask the same after the passes. -/
lemma request_eq (h : p.Passed ps q) (node : Node) (now : Instant) :
    q.request node now = p.request node now := by
  simp only [request, heartbeat, registration, h.this_eq, h.clusterToken_eq]

end Passed

/-- The caller's record depends on the caller alone. -/
lemma calleeRecord?_of_setting (hcaller : q.caller = p.caller)
    (hsetting : q.callee.view.setting = p.callee.view.setting) : q.calleeRecord? = p.calleeRecord? := by
  have hthis : q.callee.this = p.callee.this := congrArg Prod.fst hsetting
  rw [calleeRecord?, calleeRecord?, hcaller, hthis]

/-- A pass of the caller drops its record of the callee, or leaves it as it is. -/
lemma calleeRecord?_evictCaller (p : Pair σ τ) (now : Instant) :
    ({ p with caller.view := (p.caller.view.evict now).1 } : Pair σ τ).calleeRecord? =
      p.calleeRecord?.filter (·.survivesAt now) :=
  Roster.get?_filter ..

/-! ### What a round does -/

/-- What a round does: the callee `n` handles the request when it arrives, and the caller settles the
contact with what the answer `g` brings. -/
structure Exchanged (p : Pair σ τ) (node : Node) (r : Round) (q : Pair σ τ) (n : EndNode τ) (g : Answered)
    (record : Option Node) : Prop where
  pending_eq : q.pending = none
  caller_eq : q.caller.view.setting = p.caller.view.setting
  callee_eq : q.callee.view.setting = p.callee.view.setting
  n_eq : n.view.setting = p.callee.view.setting
  get?_eq : n.view.cluster.nodes.get? p.caller.this.name =
    p.callerRecord?.filter (Survives (r.idle ++ r.outbound))
  handled : n.Handled p.caller.this node.outToken r.fresh g record
  method_eq : g.method = if node.registeredRemoteAt r.called then .heartbeat else .register
  time_eq : g.time = r.served
  callerRecord?_eq : q.callerRecord? = record.filter (Survives r.inbound)
  calleeRecord?_eq : ∃ outcome : Except Rpc.CallError News, outcome.toOption = g.news? p.clusterToken ∧
    q.calleeRecord? = some (Contact.settled outcome r.landed node)

/-- A pair that has no contact under way and can find each other: the caller knows the callee, and the
callee would take it in. -/
structure Acquainted (p : Pair σ τ) (node : Node) : Prop where
  pending_eq : p.pending = none
  token_eq : p.callee.view.cluster.token = p.clusterToken
  welcomes : p.callee.Welcomes p.caller.this
  calleeRecord?_eq : p.calleeRecord? = some node
  identity_eq : node.identity = p.callee.this

/-- What a contact brought is what the record of the callee holds. -/
lemma settled_of_toOption {outcome : Except Rpc.CallError News} {news : Option News}
    (h : outcome.toOption = news) (now : Instant) (node : Node) :
    Contact.settled outcome now node =
      news.elim (Contact.failed now node) (Contact.succeeded · now node) := by
  cases outcome <;> subst h <;> rfl

/-- The two records match: they hold the same token, and both are as fresh as the last round. -/
structure Paired (p : Pair σ τ) (last : Round) (node record : Node) : Prop where
  calleeRecord?_eq : p.calleeRecord? = some node
  callerRecord?_eq : p.callerRecord? = some record
  identity_eq : record.identity = p.caller.this
  token_eq : node.outToken = record.inToken
  token_ne : record.inToken ≠ ""
  heardAt_eq : record.heardAt = some last.served
  reportedAt_eq : node.reportedAt = some last.landed

/-- The callee drops no stale record so late that it might take the caller for dead before the answer of
the round is there. -/
def Round.Settles (r : Round) : Prop := ∀ t, .callee t ∈ r.inbound → r.served.isRecent t = true

/-- The request of a round arrives less than one timeout after that of the one before, and so does all that
the callee does in between. -/
def Round.Follows (last next : Round) : Prop :=
  last.served.isRecent next.served = true ∧
    ∀ t, .callee t ∈ next.idle ++ next.outbound → last.served.isRecent t = true

variable {r last : Round} {n : EndNode τ} {g : Answered} {after : Option Node}

/-- The records match if the callee has stored what the caller learned. -/
lemma Exchanged.paired (hx : Exchanged p node r q n g (some record)) (hsettles : r.Settles) {news : News}
    (hid : record.identity = p.caller.this) (hheard : record.heardAt = some r.served)
    (hne : record.inToken ≠ "") (hnews : g.news? p.clusterToken = some news)
    (htoken : news.issued.getD node.outToken = record.inToken) :
    ∃ node', q.Paired r node' record := by
  obtain ⟨outcome, houtcome, hcallee⟩ := hx.calleeRecord?_eq
  rw [settled_of_toOption houtcome, hnews] at hcallee
  have hsurvives : (some record).filter (Survives r.inbound) = some record := by
    rw [Option.filter_some, if_pos (survives_of_heardAt hheard hsettles)]
  have hthis : q.caller.this = p.caller.this := congrArg Prod.fst hx.caller_eq
  exact ⟨_, hcallee, hx.callerRecord?_eq.trans hsurvives, hthis ▸ hid, htoken, hne, hheard, rfl⟩

/-- The callee keeps the token of its cluster. -/
lemma Exchanged.token_eq (hx : Exchanged p node r q n g after) (h : p.Acquainted node) :
    n.view.cluster.token = p.clusterToken :=
  (congrArg (·.2.2) hx.n_eq).trans h.token_eq

/-- The caller is still welcome when its request arrives. -/
lemma Exchanged.welcomes (hx : Exchanged p node r q n g after) (h : p.Acquainted node) :
    n.Welcomes p.caller.this := by
  refine h.welcomes.of_get? hx.n_eq fun known hknown => ?_
  rw [hx.get?_eq, Option.mem_def, Option.filter_eq_some_iff] at hknown
  exact h.welcomes.2.2.2 known hknown.1

/-- A registration makes the records match. -/
lemma Exchanged.paired_of_register (hx : Exchanged p node r q n g after) (h : p.Acquainted node)
    (hsettles : r.Settles) (hfresh : r.fresh ≠ "") (hmethod : g.method = .register) :
    ∃ node' record, q.Paired r node' record := by
  have htoken := hx.token_eq h
  cases hx.handled with
  | rejected _ _ _ hnot => exact absurd (hx.welcomes h) hnot
  | enrolled record _ _ hid hinToken hheard hnews =>
    rw [htoken] at hnews
    rw [hx.time_eq] at hheard
    obtain ⟨node', hpaired⟩ :=
      hx.paired hsettles hid hheard (hinToken ▸ hfresh) hnews hinToken.symm
    exact ⟨node', record, hpaired⟩
  | renewed old _ _ hid hlive hnews =>
    rw [htoken] at hnews
    have hne : old.inToken ≠ "" := by
      rintro hempty
      simp [Node.registeredLocalAt, hempty] at hlive
    obtain ⟨node', hpaired⟩ := hx.paired hsettles hid (congrArg some hx.time_eq) hne hnews rfl
    exact ⟨node', _, hpaired⟩
  | ignored hheartbeat | confirmed _ _ hheartbeat =>
    rw [hmethod] at hheartbeat
    cases hheartbeat

/-- A heartbeat makes the records match, or the caller forgets its token. -/
lemma Exchanged.paired_or_forgotten (hx : Exchanged p node r q n g after) (h : p.Acquainted node)
    (hsettles : r.Settles) (hmethod : g.method = .heartbeat) :
    (∃ node' record, q.Paired r node' record) ∨
      ¬ n.Recognizes p.caller.this node.outToken r.served ∧
        ∃ node', q.calleeRecord? = some node' ∧ node'.outToken = "" := by
  have htoken := hx.token_eq h
  cases hx.handled with
  | ignored _ hnews hnot =>
    rw [htoken] at hnews
    rw [hx.time_eq] at hnot
    obtain ⟨outcome, houtcome, hcallee⟩ := hx.calleeRecord?_eq
    rw [settled_of_toOption houtcome, hnews] at hcallee
    exact .inr ⟨hnot, _, hcallee, rfl⟩
  | confirmed old _ _ _ hid hinToken hne hnews =>
    rw [htoken] at hnews
    obtain ⟨node', hpaired⟩ :=
      hx.paired hsettles hid (congrArg some hx.time_eq) (hinToken ▸ hne) hnews hinToken.symm
    exact .inl ⟨node', _, hpaired⟩
  | rejected hregister | enrolled _ hregister | renewed _ hregister =>
    rw [hmethod] at hregister
    cases hregister

/-- A pair that can find each other still can after a round. -/
lemma Exchanged.acquainted (hx : Exchanged p node r q n g after) (h : p.Acquainted node) :
    ∃ node', q.Acquainted node' := by
  obtain ⟨outcome, -, hcallee⟩ := hx.calleeRecord?_eq
  have hcaller : q.caller.this = p.caller.this := congrArg Prod.fst hx.caller_eq
  have hcalleeThis : q.callee.this = p.callee.this := congrArg Prod.fst hx.callee_eq
  have htoken : q.callee.view.cluster.token = q.clusterToken := by
    have hcalleeToken : q.callee.view.cluster.token = p.callee.view.cluster.token :=
      congrArg (·.2.2) hx.callee_eq
    have hcallerToken : q.clusterToken = p.clusterToken := congrArg (·.2.2) hx.caller_eq
    rw [hcalleeToken, hcallerToken, h.token_eq]
  refine ⟨_, hx.pending_eq, htoken, ?_, hcallee, ?_⟩
  · rw [hcaller]
    refine h.welcomes.of_get? hx.callee_eq fun found hfound => ?_
    rw [← hcaller] at hfound
    have hfound' : q.callerRecord? = some found := hfound
    rw [hx.callerRecord?_eq, Option.filter_eq_some_iff] at hfound'
    exact hx.handled.identity_eq (hx.welcomes h).2.2.2 found hfound'.1
  · rw [Contact.identity_settled, hcalleeThis]
    exact h.identity_eq

/-- The records of a pair match after a round, and the pair can still find each other. -/
def Healed (p : Pair σ τ) (last : Round) : Prop :=
  ∃ node record, p.Acquainted node ∧ p.Paired last node record

/-- Tokens that match are all that healing takes. -/
lemma healed_of_paired {node' : Node} (h : ∃ node record, p.Paired last node record)
    (h' : p.Acquainted node') : p.Healed last := by
  obtain ⟨node, record, hpaired⟩ := h
  obtain rfl : node' = node := Option.some.inj (h'.calleeRecord?_eq.symm.trans hpaired.calleeRecord?_eq)
  exact ⟨node', record, h', hpaired⟩

/-! ### Runs in which the caller keeps its record -/

variable [ProxyEngine τ] [CertManager τ] {e : Event} {es es' : List Event}

/-- The caller has a record of the callee all along. -/
def Retains : Pair σ τ → List Event → Prop
  | p, [] => p.calleeRecord?.isSome = true
  | p, e :: es => p.calleeRecord?.isSome = true ∧ Retains (p.step e) es

lemma Retains.isSome (h : p.Retains es) : p.calleeRecord?.isSome = true := by
  cases es with
  | nil => exact h
  | cons e es => exact h.1

lemma retains_append : p.Retains (es ++ es') ↔ p.Retains es ∧ (p.run es).Retains es' := by
  induction es generalizing p with
  | nil => exact ⟨fun h => ⟨h.isSome, h⟩, fun h => h.2⟩
  | cons e es ih => rw [List.cons_append, Retains, Retains, ih, run_cons, and_assoc]

/-- The caller has nothing to do with the requests that arrive. -/
lemma calleeRecord?_serve (p : Pair σ τ) (m : Method) (s : Envelope) (fresh : String) (now : Instant)
    (given : List Answered) :
    ({ p with callee := (p.callee.serve m s fresh now).1, given } : Pair σ τ).calleeRecord? =
      p.calleeRecord? :=
  calleeRecord?_of_setting rfl (p.callee.setting_serve m s fresh now)

/-- Whatever happens, the caller keeps the record of a static peer, and keeps it static. -/
lemma Turn.exists_isLocal (h : p.Turn e q)
    (hlocal : ∃ node, p.calleeRecord? = some node ∧ node.isLocal = true) :
    ∃ node, q.calleeRecord? = some node ∧ node.isLocal = true := by
  obtain ⟨node, hnode, hlocal⟩ := hlocal
  cases h with
  | land | miss =>
    refine ⟨_, PeerView.get?_settle_of_some hnode _ _, ?_⟩
    split_ifs
    · rw [Contact.isLocal_settled, hlocal]
    · exact hlocal
  | deliver => exact ⟨node, (calleeRecord?_serve ..).trans hnode, hlocal⟩
  | @evictCaller now =>
    have hsurvives : node.survivesAt now = true := by simp [Node.survivesAt, hlocal]
    refine ⟨node, ?_, hlocal⟩
    rw [calleeRecord?_evictCaller, hnode, Option.filter_some, if_pos hsurvives]
  | idle | call | evict => exact ⟨node, hnode, hlocal⟩

/-- A static peer is never lost. -/
lemma retains_of_isLocal (h : ∃ node, p.calleeRecord? = some node ∧ node.isLocal = true) :
    p.Retains es := by
  have hsome : p.calleeRecord?.isSome = true := by
    obtain ⟨node, hnode, -⟩ := h
    rw [hnode]
    rfl
  induction es generalizing p with
  | nil => exact hsome
  | cons e es ih =>
    have hlater := (p.turn_step e).exists_isLocal h
    obtain ⟨later, hget, -⟩ := id hlater
    exact ⟨hsome, ih hlater (by rw [hget]; rfl)⟩

/-- A pass after which the caller still has its record changes only what the callee remembers. -/
lemma passed_step (pass : Pass) (h : (p.step pass.event).calleeRecord?.isSome = true) :
    p.Passed [pass] (p.step pass.event) := by
  cases pass with
  | callee now =>
    have hspares : (fun node : Node => node.survivesAt now) = Survives [.callee now] :=
      funext fun node => (Bool.and_true _).symm
    exact ⟨rfl, rfl, rfl, rfl, rfl, rfl, fun name => hspares ▸ Roster.get?_filter ..⟩
  | caller now =>
    have hkept : (p.step (.evictCaller now)).calleeRecord? = p.calleeRecord? := by
      obtain ⟨node, hnode⟩ := Option.isSome_iff_exists.1 h
      have hfilter : p.calleeRecord?.filter (·.survivesAt now) = some node :=
        (p.calleeRecord?_evictCaller now).symm.trans hnode
      exact hnode.trans (Option.filter_eq_some_iff.1 hfilter).1.symm
    refine ⟨rfl, rfl, rfl, rfl, rfl, hkept, fun name => ?_⟩
    change p.callee.view.cluster.nodes.get? name = _
    cases p.callee.view.cluster.nodes.get? name <;> rfl

/-- So do several passes, if the caller has its record all along. -/
lemma exists_run_passes {ps : List Pass} (h : p.Retains (ps.map Pass.event)) :
    ∃ q, p.run (ps.map Pass.event) = q ∧ p.Passed ps q := by
  induction ps generalizing p with
  | nil => exact ⟨p, rfl, .refl p⟩
  | cons pass ps ih =>
    obtain ⟨-, h⟩ := h
    obtain ⟨q, hrun, hpassed⟩ := ih h
    exact ⟨q, hrun, (passed_step pass h.isSome).trans hpassed⟩

def answerOf (n : EndNode τ) (s : Method × Envelope) (fresh : String) (now : Instant) : Answered :=
  ⟨s.1, (n.serve s.1 s.2 fresh now).2, now⟩

/-- A round goes through two waits: for the request to arrive, and for the answer. -/
lemma exists_run_events (hpending : p.pending = none) (hnode : p.calleeRecord? = some node)
    (hretains : p.Retains r.events) :
    ∃ waiting done : Pair σ τ,
      ({ p with
          pending := some (⟨.peers, node⟩, r.called)
          sent := p.request node r.called :: p.sent } : Pair σ τ).Passed (r.idle ++ r.outbound) waiting ∧
      ({ waiting with
          callee := (waiting.callee.serve (p.request node r.called).1 (p.request node r.called).2 r.fresh
            r.served).1
          given := answerOf waiting.callee (p.request node r.called) r.fresh r.served :: p.given } :
        Pair σ τ).Passed r.inbound done ∧
      p.run r.events = done.settle ⟨.peers, node⟩ r.called
        (some (answerOf waiting.callee (p.request node r.called) r.fresh r.served).answer) r.landed := by
  set s := p.request node r.called
  set c : Contact := ⟨.peers, node⟩
  rw [Round.events, retains_append] at hretains
  obtain ⟨hretainsIdle, -, hretains⟩ := hretains
  obtain ⟨idle, hidle, hpassedIdle⟩ := exists_run_passes hretainsIdle
  have hcall : idle.step (.call r.called) =
      { idle with pending := some (c, r.called), sent := s :: p.sent } := by
    rw [step_call (hpassedIdle.pending_eq.trans hpending) (hpassedIdle.calleeRecord?_eq.trans hnode),
      hpassedIdle.request_eq, hpassedIdle.sent_eq]
  rw [hidle, hcall, retains_append] at hretains
  obtain ⟨hretainsOutbound, -, hretains⟩ := hretains
  obtain ⟨waiting, houtbound, hpassedOutbound⟩ := exists_run_passes hretainsOutbound
  have hwaiting := (hpassedIdle.sending (some (c, r.called)) (s :: p.sent)).trans hpassedOutbound
  have hdeliver : waiting.step (.deliver 0 r.fresh r.served) =
      { waiting with
        callee := (waiting.callee.serve s.1 s.2 r.fresh r.served).1
        given := answerOf waiting.callee s r.fresh r.served :: p.given } := by
    have hplace : waiting.sent[0]? = some s := by
      rw [hwaiting.sent_eq]
      rfl
    rw [step_deliver hplace, hwaiting.given_eq]
    rfl
  rw [houtbound, hdeliver, retains_append] at hretains
  obtain ⟨done, hinbound, hdone⟩ := exists_run_passes hretains.1
  have hmethod : (answerOf waiting.callee s r.fresh r.served).method = c.method r.called :=
    (congrArg Prod.fst (p.request_eq .peers node r.called)).symm
  have hplace : done.given[0]? = some (answerOf waiting.callee s r.fresh r.served) := by
    rw [hdone.given_eq]
    rfl
  refine ⟨waiting, done, hwaiting, hdone, ?_⟩
  rw [Round.events, run_append, hidle, run_cons, hcall, run_append, houtbound, run_cons, hdeliver, run_append,
    hinbound, run_cons, run_nil]
  exact step_land (hdone.pending_eq.trans hwaiting.pending_eq) hplace hmethod r.landed

/-- Every round in which the caller keeps its record is an exchange. -/
lemma Acquainted.exists_exchanged (h : p.Acquainted node) (r : Round) (hretains : p.Retains r.events)
    (hportable : (p.run r.events).Portable) :
    ∃ n g record, Exchanged p node r (p.run r.events) n g record := by
  obtain ⟨waiting, done, hwaiting, hdone, hrun⟩ :=
    exists_run_events h.pending_eq h.calleeRecord?_eq hretains
  set s := p.request node r.called with hs
  set g := answerOf waiting.callee s r.fresh r.served with hg
  rw [hrun] at hportable ⊢
  obtain ⟨hsent, hgiven⟩ := hportable
  rw [sent_settle, hdone.sent_eq, hwaiting.sent_eq] at hsent
  rw [given_settle, hdone.given_eq] at hgiven
  have hthis : waiting.caller.this = p.caller.this := hwaiting.this_eq
  have hclusterToken : waiting.clusterToken = p.clusterToken := hwaiting.clusterToken_eq
  have htoken : waiting.callee.view.cluster.token = waiting.clusterToken :=
    (congrArg (·.2.2) hwaiting.callee_eq).trans (h.token_eq.trans hclusterToken.symm)
  have hrequest : s = waiting.registration ∨ s = waiting.heartbeat node.outToken := by
    have hsame : waiting.request node r.called = s := hwaiting.request_eq node r.called
    rw [← hsame, request]
    split_ifs
    · exact .inr rfl
    · exact .inl rfl
  have hhandled := handled_serve (p := waiting) node.outToken (m := s.1) (e := s.2) htoken hrequest
    (hsent s (List.mem_cons_self ..)) (hgiven g (List.mem_cons_self ..))
  rw [hthis] at hhandled
  have hcallee : done.callee.view.setting = p.callee.view.setting :=
    hdone.callee_eq.trans ((EndNode.setting_serve ..).trans hwaiting.callee_eq)
  refine ⟨waiting.callee, g, _, rfl,
    (PeerView.setting_settle ..).trans (hdone.caller_eq.trans hwaiting.caller_eq), hcallee,
    hwaiting.callee_eq, hwaiting.get?_eq _, hhandled, ?_, rfl, ?_, ?_⟩
  · rw [hg, answerOf, hs, request]
    split_ifs <;> rfl
  · have hdoneThis : done.caller.this = p.caller.this := hdone.this_eq.trans hthis
    rw [callerRecord?_settle, callerRecord?, hdoneThis]
    exact hdone.get?_eq _
  · have hmethod : Contact.method ⟨.peers, node⟩ r.called = g.method :=
      congrArg Prod.fst (p.request_eq .peers node r.called)
    have hold : done.calleeRecord? = some node := by
      rw [hdone.calleeRecord?_eq, calleeRecord?_serve, hwaiting.calleeRecord?_eq]
      exact h.calleeRecord?_eq
    have hname : node.name = done.callee.this.name := by
      have hdoneCallee : done.callee.this = p.callee.this := congrArg Prod.fst hcallee
      rw [hdoneCallee, ← h.identity_eq]
      rfl
    have hdoneToken : done.clusterToken = p.clusterToken := hdone.clusterToken_eq.trans hclusterToken
    refine ⟨_, ?_, calleeRecord?_settle_of_some hold hname⟩
    rw [hmethod, hdoneToken]
    exact Answered.toOption_outcome _

/-! ### Rounds -/

/-- Who holds no token registers. -/
lemma Acquainted.healed_of_outToken_eq (h : p.Acquainted node) (hempty : node.outToken = "")
    (hsettles : r.Settles) (hfresh : r.fresh ≠ "") (hretains : p.Retains r.events)
    (hportable : (p.run r.events).Portable) : (p.run r.events).Healed r := by
  obtain ⟨n, g, after, hx⟩ := h.exists_exchanged r hretains hportable
  have hmethod : g.method = .register := by
    rw [hx.method_eq, if_neg]
    simp [Node.registeredRemoteAt, hempty]
  obtain ⟨node', h'⟩ := hx.acquainted h
  exact healed_of_paired (hx.paired_of_register h hsettles hfresh hmethod) h'

/-- Whatever the records hold, after a round they match, or the caller holds no token. -/
lemma Acquainted.healed_or_forgotten (h : p.Acquainted node) (hsettles : r.Settles)
    (hfresh : r.fresh ≠ "") (hretains : p.Retains r.events) (hportable : (p.run r.events).Portable) :
    (p.run r.events).Healed r ∨ ∃ node', (p.run r.events).Acquainted node' ∧ node'.outToken = "" := by
  obtain ⟨n, g, after, hx⟩ := h.exists_exchanged r hretains hportable
  obtain ⟨node', h'⟩ := hx.acquainted h
  have hmethod := hx.method_eq
  split_ifs at hmethod
  · rcases hx.paired_or_forgotten h hsettles hmethod with hpaired | ⟨-, found, hfound, hempty⟩
    · exact .inl (healed_of_paired hpaired h')
    · obtain rfl : node' = found := Option.some.inj (h'.calleeRecord?_eq.symm.trans hfound)
      exact .inr ⟨node', h', hempty⟩
  · exact .inl (healed_of_paired (hx.paired_of_register h hsettles hfresh hmethod) h')

/-- Records that match still do after a round that comes in time. -/
lemma Healed.run_events (h : p.Healed last) (hfollows : last.Follows r) (hsettles : r.Settles)
    (hfresh : r.fresh ≠ "") (hretains : p.Retains r.events) (hportable : (p.run r.events).Portable) :
    (p.run r.events).Healed r := by
  obtain ⟨node, record, h, hpaired⟩ := h
  obtain ⟨n, g, after, hx⟩ := h.exists_exchanged r hretains hportable
  obtain ⟨node', h'⟩ := hx.acquainted h
  refine healed_of_paired ?_ h'
  have hmethod := hx.method_eq
  split_ifs at hmethod
  · -- the callee has kept the record, so it recognizes the heartbeat
    refine (hx.paired_or_forgotten h hsettles hmethod).resolve_right fun hnot => hnot.1 ?_
    have hget : n.view.cluster.nodes.get? p.caller.this.name = some record := by
      rw [hx.get?_eq, hpaired.callerRecord?_eq, Option.filter_some,
        if_pos (survives_of_heardAt hpaired.heardAt_eq hfollows.2)]
    refine ⟨h.welcomes.1, hpaired.token_eq ▸ hpaired.token_ne, record, hget, hpaired.identity_eq,
      hpaired.token_eq.symm, fun s hs => ?_⟩
    rw [hpaired.heardAt_eq] at hs
    exact Option.some.inj hs ▸ hfollows.1
  · exact hx.paired_of_register h hsettles hfresh hmethod

/-- Rounds that come in time keep the records matching. -/
lemma Healed.run {rs : List Round} (h : p.Healed last) (hfollows : (last :: rs).IsChain Round.Follows)
    (hsettles : ∀ r ∈ rs, r.Settles) (hfresh : ∀ r ∈ rs, r.fresh ≠ "")
    (hretains : p.Retains (rs.flatMap Round.events))
    (hportable : (p.run (rs.flatMap Round.events)).Portable) :
    (p.run (rs.flatMap Round.events)).Healed (rs.getLast?.getD last) := by
  induction rs generalizing p last with
  | nil => exact h
  | cons r rs ih =>
    rw [List.flatMap_cons, run_append] at hportable ⊢
    rw [List.flatMap_cons, retains_append] at hretains
    obtain ⟨hnext, hrest⟩ := List.isChain_cons_cons.1 hfollows
    have hround := h.run_events hnext (hsettles r (List.mem_cons_self ..))
      (hfresh r (List.mem_cons_self ..)) hretains.1 (Portable.of_run hportable)
    rw [List.getLast?_cons, Option.getD_some]
    exact ih hround hrest (fun r hr => hsettles r (List.mem_cons_of_mem _ hr))
      (fun r hr => hfresh r (List.mem_cons_of_mem _ hr)) hretains.2 hportable

/-- Two rounds heal the pair: if the first one only finds out that the tokens differ, the second one
registers anew. -/
lemma Acquainted.healed_of_two (h : p.Acquainted node) {first second : Round}
    (hfollows : first.Follows second) (hfirst : first.Settles) (hsecond : second.Settles)
    (hfreshFirst : first.fresh ≠ "") (hfreshSecond : second.fresh ≠ "")
    (hretains : p.Retains (first.events ++ second.events))
    (hportable : ((p.run first.events).run second.events).Portable) :
    ((p.run first.events).run second.events).Healed second := by
  obtain ⟨hretainsFirst, hretainsSecond⟩ := retains_append.1 hretains
  -- a heartbeat that the callee does not recognize costs one round: the next one registers
  rcases h.healed_or_forgotten hfirst hfreshFirst hretainsFirst (Portable.of_run hportable) with
    hhealed | ⟨node', h', hempty⟩
  · exact hhealed.run_events hfollows hsecond hfreshSecond hretainsSecond hportable
  · exact h'.healed_of_outToken_eq hempty hsecond hfreshSecond hretainsSecond hportable

/-- Two nodes of a cluster find each other again whatever they hold of each other, and however often they
drop stale records, if the caller does not lose its record: after two rounds that come in time, and after all
later ones, each has a live record of the other one, and the token that the one presents is the one that the
other expects. -/
theorem healed_of_two_rounds {node : Node} (h : p.Acquainted node) {first second last : Round}
    {rest : List Round} (hlast : (second :: rest).getLast? = some last)
    (hfollows : (first :: second :: rest).IsChain Round.Follows)
    (hsettles : ∀ r ∈ first :: second :: rest, r.Settles)
    (hfresh : ∀ r ∈ first :: second :: rest, r.fresh ≠ "")
    (hretains : p.Retains ((first :: second :: rest).flatMap Round.events))
    (hportable : (p.run ((first :: second :: rest).flatMap Round.events)).Portable) {now : Instant}
    (hserved : last.served.isRecent now = true) (hlanded : last.landed.isRecent now = true) :
    let later := p.run ((first :: second :: rest).flatMap Round.events)
    ∃ node record, later.calleeRecord? = some node ∧ later.callerRecord? = some record ∧
      node.identity = later.callee.this ∧ record.identity = later.caller.this ∧
      node.registeredRemoteAt now = true ∧ record.registeredLocalAt now = true ∧
      node.outToken = record.inToken := by
  intro later
  have hhealed : later.Healed last := by
    have hrun : later = ((p.run first.events).run second.events).run (rest.flatMap Round.events) := by
      rw [← run_append, ← run_append]
      simp [later]
    obtain ⟨hsecond, hrest⟩ := List.isChain_cons_cons.1 hfollows
    obtain rfl : rest.getLast?.getD second = last := by
      rw [List.getLast?_cons] at hlast
      exact Option.some.inj hlast
    have hmem : first ∈ first :: second :: rest ∧ second ∈ first :: second :: rest := by simp
    rw [List.flatMap_cons, List.flatMap_cons, ← List.append_assoc, retains_append, run_append] at hretains
    change later.Portable at hportable
    rw [hrun] at hportable ⊢
    refine (h.healed_of_two hsecond (hsettles _ hmem.1) (hsettles _ hmem.2) (hfresh _ hmem.1)
      (hfresh _ hmem.2) hretains.1 (Portable.of_run hportable)).run hrest ?_ ?_ hretains.2 hportable
    · exact fun r hr => hsettles r (by simp [hr])
    · exact fun r hr => hfresh r (by simp [hr])
  obtain ⟨node, record, h, hpaired⟩ := hhealed
  have hne : node.outToken ≠ "" := hpaired.token_eq ▸ hpaired.token_ne
  refine ⟨node, record, hpaired.calleeRecord?_eq, hpaired.callerRecord?_eq, h.identity_eq,
    hpaired.identity_eq, ?_, ?_, hpaired.token_eq⟩
  · simp [Node.registeredRemoteAt, hne, hpaired.reportedAt_eq, hlanded]
  · simp [Node.registeredLocalAt, hpaired.token_ne, hpaired.heardAt_eq, hserved]

/-! ### A token that was replaced -/

/-- The record of the peer, with a token that the peer has replaced. -/
def stale : Node := { Node.fixed otherOne 0 with outToken := "old", reportedAt := some 0 }

def peer : EndNode Unconfigured := two (Roster.empty.insert "a" (.registered thisOne "new" 0))

/-- Two nodes whose tokens do not match. -/
def mismatched : Pair Unconfigured Unconfigured := start (one stale) peer

def firstRound : Round := ⟨1, 2, 3, "t", [], [], []⟩

/-- The second round; both drop stale records before it. -/
def secondRound : Round := ⟨4, 5, 6, "u", [.callee 3, .caller 4], [], []⟩

/-- The answer to the heartbeat of the first round. -/
def refused : Answered :=
  ⟨.heartbeat, .ok ((Rpc.Reply.failure .heartbeat .authFailed "wrong token for node a").close .cluster "s"
    "prod" "b" .heartbeat), 2⟩

/-- The pair after the first round: the node has forgotten its token, and the peer is as it was. -/
def forgetful : Pair Unconfigured Unconfigured where
  caller := { one stale with
    view := (one stale).view.settle ⟨.peers, stale⟩
      (.error (Rpc.Reply.failure .heartbeat .authFailed "wrong token for node a").rejection) 3 }
  callee := { peer with
    view.cluster := (peer.view.cluster.answerHeartbeat ⟨some (.of "old" thisOne), .heartbeat⟩ 2).1 }
  pending := none
  sent := [mismatched.heartbeat "old"]
  given := [refused]

lemma portable_heartbeat : (mismatched.heartbeat "old").2.Portable :=
  Envelope.portable_close_iff.2 (by decide +kernel)

lemma portable_refused : refused.Portable := by
  rintro e he
  cases he
  exact Envelope.portable_close_iff.2 (by decide +kernel)

/-- The pair while the heartbeat of the first round waits for its answer. -/
def beating (callee : EndNode Unconfigured) (given : List Answered) : Pair Unconfigured Unconfigured :=
  ⟨one stale, callee, some (⟨.peers, stale⟩, 1), [mismatched.heartbeat "old"], given⟩

/-- The first round does not heal the pair: the caller only finds out that its token is refused. -/
lemma run_firstRound : mismatched.run firstRound.events = forgetful := by
  have hcall : mismatched.step (.call 1) = beating peer [] := by
    have hnode : mismatched.calleeRecord? = some stale := get?_one stale
    have hrequest : mismatched.request stale 1 = mismatched.heartbeat "old" := if_pos (by decide)
    rw [step_call rfl hnode, hrequest]
    rfl
  have hdeliver : (beating peer []).step (.deliver 0 "t" 2) = beating forgetful.callee [refused] := by
    have hreply : (peer.view.cluster.answerHeartbeat ⟨some (.of "old" thisOne), .heartbeat⟩ 2).2 =
        .failure .heartbeat .authFailed "wrong token for node a" := by decide +kernel
    have hstep := step_deliver_heartbeat (p := beating peer []) 0 rfl rfl portable_heartbeat "t" 2
    rw [hstep, refused, ← hreply]
    rfl
  have hland : (beating forgetful.callee [refused]).step (.land 0 3) = forgetful := by
    have hmethod : refused.method = Contact.method ⟨.peers, stale⟩ 1 := by decide
    have houtcome : Contact.outcome "s" .heartbeat (one stale).intervals.rpcTimeout (some refused.answer) =
        .error (Rpc.Reply.failure .heartbeat .authFailed "wrong token for node a").rejection :=
      Answered.outcome_close (Rpc.Body.answers_blank .heartbeat) (portable_refused _ rfl) _
    have hstep : (beating forgetful.callee [refused]).step (.land 0 3) =
        (beating forgetful.callee [refused]).settle ⟨.peers, stale⟩ 1 (some refused.answer) 3 :=
      step_land rfl rfl hmethod 3
    rw [hstep, forgetful, ← houtcome]
    rfl
  change mismatched.run [.call 1, .deliver 0 "t" 2, .land 0 3] = _
  rw [run_cons, run_cons, run_cons, run_nil, hcall, hdeliver, hland]

/-- The answer to the registration of the second round. -/
def renewed : Answered :=
  ⟨.register, .ok ((Cluster.registrationReply (.ok ⟨"new", true⟩)).close .cluster "s" "prod" "b"
    .register), 5⟩

lemma portable_renewed : renewed.Portable := by
  rintro e he
  cases he
  exact Envelope.portable_close_iff.2 (by decide +kernel)

/-- The pair when the registration of the second round is under way. -/
def enrolling : Pair Unconfigured Unconfigured :=
  { (forgetful.step (.evict 3)).step (.evictCaller 4) with
    pending := some (⟨.peers, { stale with outToken := "", reportedAt := some 3 }⟩, 4)
    sent := [enrolment, mismatched.heartbeat "old"] }

lemma calleeRecord?_forgetful :
    forgetful.calleeRecord? = some { stale with outToken := "", reportedAt := some 3 } := by
  have hsettle := PeerView.get?_settle_of_some (c := ⟨.peers, stale⟩) (get?_one stale)
    (.error (Rpc.Reply.failure .heartbeat .authFailed "wrong token for node a").rejection) 3
  exact hsettle.trans (congrArg some (if_pos ⟨rfl, rfl⟩))

lemma portable_mismatched :
    (mismatched.run ([firstRound, secondRound].flatMap Round.events)).Portable := by
  set idle := (forgetful.step (.evict 3)).step (.evictCaller 4)
  have hcall : idle.step (.call 4) = enrolling := by
    have hrecord : idle.calleeRecord? = some { stale with outToken := "", reportedAt := some 3 } := by
      have hidle : idle.calleeRecord? = forgetful.calleeRecord?.filter (·.survivesAt 4) :=
        calleeRecord?_evictCaller (forgetful.step (.evict 3)) 4
      rw [hidle, calleeRecord?_forgetful, Option.filter_some, if_pos (by decide)]
    have hrequest : idle.request { stale with outToken := "", reportedAt := some 3 } 4 = enrolment :=
      if_neg (by decide)
    rw [step_call rfl hrecord, hrequest]
    rfl
  have hdeliver : (enrolling.step (.deliver 0 "u" 5)).Portable := by
    have hresult : (enrolling.callee.view.cluster.register thisOne "s" "b" "u" 5).2 = .ok ⟨"new", true⟩ := by
      decide +kernel
    have hstep := step_deliver_registration (p := enrolling) 0 (by decide +kernel) rfl portable_enrolment "u"
      5
    have hgiven : (enrolling.step (.deliver 0 "u" 5)).given = [renewed, refused] := by
      rw [hstep, renewed, ← hresult]
      rfl
    have hsent : (enrolling.step (.deliver 0 "u" 5)).sent = [enrolment, mismatched.heartbeat "old"] := by
      rw [hstep]
      rfl
    rw [Portable, hgiven, hsent]
    simpa using ⟨⟨portable_enrolment, portable_heartbeat⟩, portable_renewed, portable_refused⟩
  have hrun : mismatched.run ([firstRound, secondRound].flatMap Round.events) =
      (enrolling.step (.deliver 0 "u" 5)).step (.land 0 6) := by
    rw [List.flatMap_cons, run_append, run_firstRound]
    change forgetful.run [.evict 3, .evictCaller 4, .call 4, .deliver 0 "u" 5, .land 0 6] = _
    rw [run_cons, run_cons, run_cons, run_cons, run_cons, run_nil, hcall]
  rw [hrun]
  exact (turn_step _ _).portable_of_land hdeliver

lemma acquainted_mismatched : mismatched.Acquainted stale := by
  have hget : peer.view.cluster.nodes.get? "a" = some (.registered thisOne "new" 0) :=
    (Roster.get?_insert ..).trans (if_pos rfl)
  have hidentity : ∀ node ∈ peer.view.cluster.nodes.get? "a", node.identity = thisOne := by
    intro node hnode
    rw [hget] at hnode
    cases hnode
    rfl
  exact ⟨rfl, rfl, ⟨by decide, by decide, rfl, hidentity⟩, get?_one stale, rfl⟩

lemma retains_mismatched : mismatched.Retains ([firstRound, secondRound].flatMap Round.events) :=
  retains_of_isLocal ⟨stale, get?_one stale, rfl⟩

/-- Two rounds make the tokens match though the node began with one that the peer had replaced. -/
theorem healed_of_two_rounds_mismatched :
    let later := mismatched.run ([firstRound, secondRound].flatMap Round.events)
    mismatched.Acquainted stale ∧ mismatched.Retains ([firstRound, secondRound].flatMap Round.events) ∧
      later.Portable ∧
      ∃ node record, later.calleeRecord? = some node ∧ later.callerRecord? = some record ∧
        node.registeredRemoteAt (Span.seconds 60) = true ∧
        record.registeredLocalAt (Span.seconds 60) = true ∧ node.outToken = record.inToken := by
  intro later
  have hfollows : firstRound.Follows secondRound := by
    refine ⟨by decide, fun t ht => ?_⟩
    obtain rfl : t = 3 := by simpa [secondRound] using ht
    decide
  have hsettles : ∀ r ∈ [firstRound, secondRound], r.Settles := by
    simp [firstRound, secondRound, Round.Settles]
  have hfresh : ∀ r ∈ [firstRound, secondRound], r.fresh ≠ "" := by decide
  have hserved : secondRound.served.isRecent (Span.seconds 60) = true := by decide
  have hlanded : secondRound.landed.isRecent (Span.seconds 60) = true := by decide
  obtain ⟨node, record, hnode, hrecord, -, -, hremote, hlocal, htoken⟩ :=
    healed_of_two_rounds acquainted_mismatched rfl (.cons_cons hfollows (.singleton _)) hsettles hfresh
      retains_mismatched portable_mismatched hserved hlanded
  exact ⟨acquainted_mismatched, retains_mismatched, portable_mismatched, node, record, hnode, hrecord,
    hremote, hlocal, htoken⟩

end Pair

end Flotilla
