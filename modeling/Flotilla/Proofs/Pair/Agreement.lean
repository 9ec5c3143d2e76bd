import Flotilla.Proofs.Cluster.Lease
import Flotilla.Proofs.Pair.Network

/-!
# Two nodes agree on a token

Whatever the network does to requests and answers, a node issues one token to another one that keeps in
touch with it, and the other one presents this token or none.  The token outlives lost answers, late
duplicates and failed contacts: a node that has forgotten it is told the same one again.
-/

namespace Flotilla

open Rpc (Method)

namespace Pair

variable {σ τ : Type} {p q : Pair σ τ} {e : Event} {issued : Option String}

/-! ### Runs in which the caller keeps in touch -/

/-- When the callee last accepted a request. -/
def lastAccepted (p : Pair σ τ) : Option Instant :=
  (p.given.find? fun g => (g.news? p.clusterToken).isSome).map (·.time)

/-- The callee does nothing so late that it might take the caller for dead. -/
def Timely (p : Pair σ τ) : Event → Prop
  | .deliver _ _ now | .evict now => ∀ last ∈ p.lastAccepted, last.isRecent now = true
  | _ => True

instance (p : Pair σ τ) : ∀ e, Decidable (p.Timely e)
  | .deliver _ _ now | .evict now =>
    inferInstanceAs (Decidable (∀ last ∈ p.lastAccepted, last.isRecent now = true))
  | .call _ | .land .. | .miss .. | .evictCaller _ => isTrue trivial

def Punctual [ProxyEngine τ] [CertManager τ] : Pair σ τ → List Event → Prop
  | _, [] => True
  | p, e :: es => p.Timely e ∧ Punctual (p.step e) es

instance [ProxyEngine τ] [CertManager τ] : ∀ (p : Pair σ τ) es, Decidable (p.Punctual es)
  | _, [] => isTrue trivial
  | p, e :: es =>
    have : Decidable ((p.step e).Punctual es) := instDecidablePunctual (p.step e) es
    inferInstanceAs (Decidable (p.Timely e ∧ (p.step e).Punctual es))

/-- The callee does nothing outside a window of one timeout. -/
def Event.Within (opened : Instant) : Event → Prop
  | .deliver _ _ now | .evict now => Cluster.Covers opened now
  | _ => True

/-- An answer is never given before the pair is opened. -/
lemma Turn.le_time [ProxyEngine τ] [CertManager τ] {opened : Instant} (h : p.Turn e q) (he : e.Within opened)
    (hgiven : ∀ g ∈ p.given, opened ≤ g.time) : ∀ g ∈ q.given, opened ≤ g.time := by
  cases h with
  | deliver =>
    rintro g hg
    rcases List.mem_cons.1 hg with rfl | hg
    · exact he.1
    · exact hgiven g hg
  | idle | call | land | miss | evict | evictCaller => exact hgiven

/-- A run that is over within one timeout is punctual. -/
lemma punctual_of_within [ProxyEngine τ] [CertManager τ] (opened : Instant) {es : List Event}
    (hgiven : ∀ g ∈ p.given, opened ≤ g.time) (hes : ∀ e ∈ es, e.Within opened) : p.Punctual es := by
  induction es generalizing p with
  | nil => trivial
  | cons e es ih =>
    have he := hes e (List.mem_cons_self ..)
    have hrecent {now : Instant} (hnow : Cluster.Covers opened now) :
        ∀ last ∈ p.lastAccepted, last.isRecent now = true := by
      rintro last hlast
      obtain ⟨g, hfind, rfl⟩ := Option.map_eq_some_iff.1 hlast
      exact Cluster.isRecent_of_covers (hgiven g (List.mem_of_find?_eq_some hfind)) hnow
    refine ⟨?_, ih ((p.turn_step e).le_time he hgiven) fun e he => hes e (List.mem_cons_of_mem _ he)⟩
    cases e with
    | deliver | evict => exact hrecent he
    | call | land | miss | evictCaller => trivial

/-! ### Agreement -/

/-- What the callee knows: nothing if it has issued no token, and else the token, with the instant of the
last request that it accepted. -/
inductive Keeps (p : Pair σ τ) : Option String → Prop
  | nothing (hlast : p.lastAccepted = none) (h : ∀ node ∈ p.callerRecord?, node.inToken = "") :
      Keeps p none
  | token (node : Node) (last : Instant) (hget : p.callerRecord? = some node)
      (hid : node.identity = p.caller.this) (hne : node.inToken ≠ "")
      (hlast : p.lastAccepted = some last) (hheard : node.heardAt = some last) :
      Keeps p (some node.inToken)

/-- At most one token was issued, and all that was said and stored since is about this token. -/
structure Agreed (p : Pair σ τ) (issued : Option String) : Prop where
  keeps : p.Keeps issued
  sent : ∀ s ∈ p.sent, s = p.registration ∨ ∃ t ∈ issued, s = p.heartbeat t
  given : ∀ g ∈ p.given, ∀ t ∈ g.issued? p.clusterToken, issued = some t
  mints : (p.given.filter (·.mints p.clusterToken)).length = issued.toList.length
  presents : ∀ node ∈ p.calleeRecord?, node.outToken = "" ∨ issued = some node.outToken

/-- A request that is accepted is the last one. -/
lemma lastAccepted_cons {g : Answered} {news : News} (hgiven : q.given = g :: p.given)
    (hnews : g.news? q.clusterToken = some news) : q.lastAccepted = some g.time := by
  simp [lastAccepted, hgiven, hnews]

lemma lastAccepted_cons_of_none {g : Answered} (hgiven : q.given = g :: p.given)
    (htoken : q.clusterToken = p.clusterToken) (hnews : g.news? p.clusterToken = none) :
    q.lastAccepted = p.lastAccepted := by
  simp [lastAccepted, hgiven, htoken, hnews]

/-- A token that was issued is live as long as the caller keeps in touch. -/
lemma registeredLocalAt_of_isRecent {node : Node} {last now : Instant} (hne : node.inToken ≠ "")
    (hheard : node.heardAt = some last) (hrecent : last.isRecent now = true) :
    node.registeredLocalAt now = true := by
  simp [Node.registeredLocalAt, hne, hheard, hrecent]

/-! ### What keeps the agreement -/

/-- What is kept depends on the records, the identity of the caller and the last acceptance. -/
lemma Keeps.of_eq (h : p.Keeps issued) (hthis : q.caller.this = p.caller.this)
    (hrecord : q.callerRecord? = p.callerRecord?) (hlast : q.lastAccepted = p.lastAccepted) :
    q.Keeps issued := by
  cases h with
  | nothing hnone hempty => exact .nothing (hlast.trans hnone) (hrecord ▸ hempty)
  | token node last hget hid hne hsome hheard =>
    exact .token node last (hrecord.trans hget) (hid.trans hthis.symm) hne (hlast.trans hsome) hheard

/-- A call that is made changes nothing that was agreed on. -/
lemma Agreed.call {node : Node} (h : p.Agreed issued) (hnode : p.calleeRecord? = some node)
    (pending : Option (Contact × Instant)) (now : Instant) :
    ({ p with pending, sent := p.request node now :: p.sent } : Pair σ τ).Agreed issued := by
  refine ⟨h.keeps.of_eq rfl rfl rfl, fun s hs => ?_, h.given, h.mints, h.presents⟩
  rcases List.mem_cons.1 hs with rfl | hs
  · rw [request]
    split_ifs with hregistered
    · have hne : node.outToken ≠ "" := by
        rintro hempty
        simp [Node.registeredRemoteAt, hempty] at hregistered
      have hissued := (h.presents node hnode).resolve_left hne
      exact .inr ⟨node.outToken, hissued, rfl⟩
    · exact .inl rfl
  · exact h.sent s hs

/-- A contact brings the token that was issued, or none. -/
lemma Agreed.settle (h : p.Agreed issued) {c : Contact} {called now : Instant}
    {answer : Option Rpc.Answer}
    (hanswer : ∀ news, Contact.outcome p.clusterToken (c.method called) p.caller.intervals.rpcTimeout
      answer = .ok news → ∀ t ∈ news.issued, issued = some t) :
    (p.settle c called answer now).Agreed issued := by
  have hlast : (p.settle c called answer now).lastAccepted = p.lastAccepted := by
    rw [lastAccepted, clusterToken_settle]
    rfl
  refine ⟨h.keeps.of_eq (this_settle ..) (callerRecord?_settle ..) hlast, ?_, ?_, ?_, fun node hnode => ?_⟩
  · simpa using h.sent
  · simpa using h.given
  · simpa using h.mints
  · rcases calleeRecord?_settle hnode with ⟨peer, rfl⟩ | ⟨old, hold, rfl | rfl⟩
    · exact .inl rfl
    · exact h.presents node hold
    · set outcome := Contact.outcome p.clusterToken (c.method called) p.caller.intervals.rpcTimeout answer
      rcases Contact.outToken_settled_cases outcome now old with
        hempty | ⟨news, t, houtcome, hissued, htoken⟩ | hkept
      · exact .inl hempty
      · rw [htoken]
        exact .inr (hanswer news houtcome t hissued)
      · rw [hkept]
        exact h.presents old hold

/-- An answer that arrives brings what was given. -/
lemma Agreed.land (h : p.Agreed issued) {c : Contact} {called now : Instant} {g : Answered}
    (hg : g ∈ p.given) (hmethod : g.method = c.method called) :
    (p.settle c called (some g.answer) now).Agreed issued := by
  refine h.settle fun news houtcome t ht => h.given g hg t ?_
  rw [← hmethod] at houtcome
  have hnews : g.news? p.clusterToken = some news := by
    rw [← Answered.toOption_outcome p.caller.intervals.rpcTimeout, houtcome]
    rfl
  simpa [Answered.issued?, hnews] using ht

/-- A contact that fails brings nothing. -/
lemma Agreed.miss (h : p.Agreed issued) (c : Contact) (called now : Instant)
    (failure : Option Rpc.Status) :
    (p.settle c called (failure.map .error) now).Agreed issued := by
  refine h.settle fun news houtcome => ?_
  cases failure <;> cases houtcome

/-- The callee drops no record of a node that keeps in touch. -/
lemma Agreed.evict (h : p.Agreed issued) {now : Instant}
    (htimely : ∀ last ∈ p.lastAccepted, last.isRecent now = true) :
    ({ p with callee.view := (p.callee.view.evict now).1 } : Pair σ τ).Agreed issued := by
  refine ⟨?_, h.sent, h.given, h.mints, h.presents⟩
  have hrecord : ({ p with callee.view := (p.callee.view.evict now).1 } : Pair σ τ).callerRecord? =
      p.callerRecord?.filter (·.survivesAt now) := Roster.get?_filter ..
  cases h.keeps with
  | nothing hlast hempty =>
    refine .nothing hlast fun node hnode => ?_
    rw [hrecord, Option.mem_def, Option.filter_eq_some_iff] at hnode
    exact hempty node hnode.1
  | token node last hget hid hne hlast hheard =>
    refine .token node last ?_ hid hne hlast hheard
    have hsurvives : node.survivesAt now = true := by
      simp [Node.survivesAt, Node.isValidAt, hheard, htimely last hlast]
    rw [hrecord, hget, Option.filter_some, if_pos hsurvives]

/-- The caller may drop its own record of the callee; what is left still presents the token that was
issued. -/
lemma Agreed.evictCaller (h : p.Agreed issued) (now : Instant) :
    ({ p with caller.view := (p.caller.view.evict now).1 } : Pair σ τ).Agreed issued := by
  refine ⟨h.keeps.of_eq rfl rfl rfl, h.sent, h.given, h.mints, fun node hnode => h.presents node ?_⟩
  have hrecord : ({ p with caller.view := (p.caller.view.evict now).1 } : Pair σ τ).calleeRecord? =
      p.calleeRecord?.filter (·.survivesAt now) := Roster.get?_filter ..
  rw [hrecord, Option.mem_def, Option.filter_eq_some_iff] at hnode
  exact hnode.1

/-! ### Requests that arrive -/

section Handled

variable {g : Answered} {presented fresh : String}

/-- The pair after a request was handled: only the callee has changed, and what it has given. -/
structure Answers (p q : Pair σ τ) (g : Answered) : Prop where
  caller_eq : q.caller = p.caller
  this_eq : q.callee.this = p.callee.this
  sent_eq : q.sent = p.sent
  given_eq : q.given = g :: p.given

lemma Answers.clusterToken_eq (hq : Answers p q g) : q.clusterToken = p.clusterToken := by
  rw [clusterToken, hq.caller_eq]
  rfl

/-- An answer keeps the agreement if it brings the token that is issued. -/
lemma Agreed.answers {issued' : Option String} (h : p.Agreed issued) (hq : Answers p q g)
    (hkeeps : q.Keeps issued') (hissued : ∀ t ∈ issued, issued' = some t)
    (hgiven : ∀ t ∈ g.issued? p.clusterToken, issued' = some t)
    (hmints : issued'.toList.length =
      issued.toList.length + if g.mints p.clusterToken then 1 else 0) : q.Agreed issued' := by
  have htoken := hq.clusterToken_eq
  refine ⟨hkeeps, fun s hs => ?_, fun g' hg' t ht => ?_, ?_, fun node hnode => ?_⟩
  · rw [hq.sent_eq] at hs
    have hregistration : q.registration = p.registration := by
      rw [registration, htoken, hq.caller_eq]
      rfl
    have hheartbeat (t : String) : q.heartbeat t = p.heartbeat t := by
      rw [heartbeat, htoken, hq.caller_eq]
      rfl
    rw [hregistration]
    rcases h.sent s hs with hs | ⟨t, ht, hs⟩
    · exact .inl hs
    · exact .inr ⟨t, hissued t ht, hs.trans (hheartbeat t).symm⟩
  · rw [htoken] at ht
    rw [hq.given_eq] at hg'
    rcases List.mem_cons.1 hg' with rfl | hg'
    · exact hgiven t ht
    · exact hissued t (h.given g' hg' t ht)
  · rw [htoken, hq.given_eq, List.filter_cons, hmints, ← h.mints]
    split_ifs <;> simp
  · have hrecord : q.calleeRecord? = p.calleeRecord? := by
      rw [calleeRecord?, hq.caller_eq, hq.this_eq]
      rfl
    rw [hrecord] at hnode
    exact (h.presents node hnode).imp_right fun ht => hissued _ ht

/-- A request that is turned down changes nothing. -/
lemma Agreed.of_refused (h : p.Agreed issued) (hq : Answers p q g)
    (hrecord : q.callerRecord? = p.callerRecord?) (hnews : g.news? p.clusterToken = none)
    (hmints : g.mints p.clusterToken = false) : q.Agreed issued := by
  have hlast := lastAccepted_cons_of_none hq.given_eq hq.clusterToken_eq hnews
  have hthis : q.caller.this = p.caller.this := by rw [hq.caller_eq]
  refine h.answers hq (h.keeps.of_eq hthis hrecord hlast) (fun t ht => ht) ?_ ?_
  · simp [Answered.issued?, hnews]
  · simp [hmints]

/-- A request that is accepted without a new token proves that the caller knows the old one. -/
lemma Agreed.of_heard {old : Node} {news : News} (h : p.Agreed issued) (hq : Answers p q g)
    (hid : old.identity = p.caller.this) (hissued : issued = some old.inToken) (hne : old.inToken ≠ "")
    (hrecord : q.callerRecord? = some (Cluster.heard g.time old))
    (hnews : g.news? p.clusterToken = some news) (htoken : ∀ t ∈ news.issued, t = old.inToken)
    (hmints : g.mints p.clusterToken = false) : q.Agreed issued := by
  have hlast : q.lastAccepted = some g.time :=
    lastAccepted_cons hq.given_eq (hq.clusterToken_eq ▸ hnews)
  have hkeeps : q.Keeps issued := by
    rw [hissued]
    refine .token (Cluster.heard g.time old) g.time hrecord ?_ hne hlast rfl
    rw [hq.caller_eq]
    exact hid
  refine h.answers hq hkeeps (fun t ht => ht) (fun t ht => ?_) ?_
  · rw [Answered.issued?, hnews] at ht
    rw [hissued, htoken t ht]
  · simp [hmints]

/-- A node that keeps in touch is given one token. -/
lemma Agreed.of_handled (h : p.Agreed issued) (hq : Answers p q g)
    (htoken : p.callee.view.cluster.token = p.clusterToken)
    (hhandled : p.callee.Handled p.caller.this presented fresh g q.callerRecord?)
    (hpresented : g.method = .heartbeat → issued = some presented) (hfresh : fresh ≠ "")
    (htimely : ∀ last ∈ p.lastAccepted, last.isRecent g.time = true) : ∃ issued', q.Agreed issued' := by
  generalize hrecord : q.callerRecord? = record at hhandled
  cases hhandled with
  | rejected hmethod hnews hmints =>
    rw [htoken] at hnews hmints
    exact ⟨issued, h.of_refused hq hrecord hnews hmints⟩
  | ignored hmethod hnews =>
    rw [htoken] at hnews
    exact ⟨issued, h.of_refused hq hrecord hnews (by simp [Answered.mints, hmethod])⟩
  | enrolled node hmethod hold hid hinToken hheard hnews hmints =>
    rw [htoken] at hnews hmints
    cases h.keeps with
    | nothing =>
      have hlast : q.lastAccepted = some g.time :=
        lastAccepted_cons hq.given_eq (hq.clusterToken_eq ▸ hnews)
      have hkeeps : q.Keeps (some node.inToken) := by
        refine .token node g.time hrecord ?_ (hinToken ▸ hfresh) hlast hheard
        rw [hq.caller_eq]
        exact hid
      refine ⟨some node.inToken, h.answers hq hkeeps (fun t ht => absurd ht (Option.not_mem_none t)) (fun t ht => ?_)
        (by simp [hmints])⟩
      rw [Answered.issued?, hnews] at ht
      rw [hinToken]
      exact ht
    | token known last hget hid' hne hlast hheard' =>
      -- the token that the callee keeps is live, so it does not issue another one
      have hlive := registeredLocalAt_of_isRecent hne hheard' (htimely last hlast)
      rw [hold known hget] at hlive
      cases hlive
  | renewed old hmethod hold hid hlive hnews hmints =>
    rw [htoken] at hnews hmints
    cases h.keeps with
    | nothing hlast hempty =>
      have hinToken := hempty old hold
      simp [Node.registeredLocalAt, hinToken] at hlive
    | token known last hget hid' hne hlast hheard' =>
      obtain rfl : known = old := Option.some.inj (hget.symm.trans hold)
      exact ⟨_, h.of_heard hq hid rfl hne hrecord hnews (fun t ht => (Option.some.inj ht).symm) hmints⟩
  | confirmed old peers hmethod hold hid hinToken hne hnews =>
    rw [htoken] at hnews
    have hissued := hpresented hmethod
    rw [← hinToken] at hissued hne
    exact ⟨issued, h.of_heard hq hid hissued hne hrecord hnews
      (fun t ht => absurd ht (Option.not_mem_none t)) (by simp [Answered.mints, hmethod])⟩

end Handled

/-! ### Runs -/

section Runs

variable [ProxyEngine τ] [CertManager τ]

/-- A timely turn keeps the agreement, and issues at most one token. -/
lemma Agreed.of_turn (h : p.Agreed issued) (htoken : p.callee.view.cluster.token = p.clusterToken)
    (hturn : p.Turn e q) (hportable : q.Portable) (hfresh : ∀ place now, e ≠ .deliver place "" now)
    (htimely : p.Timely e) : ∃ issued', q.Agreed issued' := by
  cases hturn with
  | idle => exact ⟨issued, h⟩
  | call hpending hnode => exact ⟨issued, h.call hnode _ _⟩
  | @deliver place fresh now m e hplace =>
    have hsent := List.mem_of_getElem? hplace
    have hne : fresh ≠ "" := fun hempty => hfresh place now (hempty ▸ rfl)
    have hq : Answers p { p with
        callee := (p.callee.serve m e fresh now).1
        given := ⟨m, (p.callee.serve m e fresh now).2, now⟩ :: p.given }
        ⟨m, (p.callee.serve m e fresh now).2, now⟩ :=
      ⟨rfl, congrArg Prod.fst (EndNode.setting_serve ..), rfl, rfl⟩
    have he : e.Portable := hportable.1 (m, e) hsent
    have hg := hportable.2 _ (List.mem_cons_self ..)
    rcases h.sent (m, e) hsent with hs | ⟨t, ht, hs⟩
    · refine h.of_handled hq htoken (handled_serve "" htoken (.inl hs) he hg) ?_ hne htimely
      cases hs
      nofun
    · exact h.of_handled hq htoken (handled_serve t htoken (.inr hs) he hg) (fun _ => ht) hne htimely
  | land hpending hplace hmethod => exact ⟨issued, h.land (List.mem_of_getElem? hplace) hmethod⟩
  | miss hpending => exact ⟨issued, h.miss _ _ _ _⟩
  | evict => exact ⟨issued, h.evict htimely⟩
  | evictCaller => exact ⟨issued, h.evictCaller _⟩

/-- In a punctual run the two agree all along; the induction is on its events. -/
lemma Agreed.run {es : List Event} (h : p.Agreed issued)
    (htoken : p.callee.view.cluster.token = p.clusterToken) (hportable : (p.run es).Portable)
    (hfresh : ∀ place now, .deliver place "" now ∉ es) (htimely : p.Punctual es) :
    ∃ issued', (p.run es).Agreed issued' := by
  induction es generalizing p issued with
  | nil => exact ⟨issued, h⟩
  | cons e es ih =>
    obtain ⟨issued', h'⟩ := h.of_turn htoken (p.turn_step e) (Portable.of_run hportable)
      (fun place now he => hfresh place now (by simp [he])) htimely.1
    exact ih h' (by simpa using htoken) hportable
      (fun place now he => hfresh place now (List.mem_cons_of_mem e he)) htimely.2

end Runs

/-! ### Welcome callers -/

/-- The callee would accept a registration of the caller, and has accepted all that it got. -/
structure Welcoming (p : Pair σ τ) : Prop where
  sent : ∀ s ∈ p.sent, s = p.registration ∨ ∃ t, s = p.heartbeat t
  welcomes : p.callee.Welcomes p.caller.this
  given : ∀ g ∈ p.given, g.method = .register → ∃ t, g.issued? p.clusterToken = some t

/-- A registration of a welcome node is answered with a token. -/
lemma exists_issued_of_handled {g : Answered} {presented fresh : String} {record : Option Node}
    (hwelcomes : p.callee.Welcomes p.caller.this)
    (htoken : p.callee.view.cluster.token = p.clusterToken)
    (h : p.callee.Handled p.caller.this presented fresh g record) (hmethod : g.method = .register) :
    ∃ t, g.issued? p.clusterToken = some t := by
  rw [← htoken]
  cases h with
  | rejected _ _ _ hnot => exact absurd hwelcomes hnot
  | enrolled _ _ _ _ _ _ hnews | renewed _ _ _ _ _ hnews =>
    exact ⟨_, by rw [Answered.issued?, hnews]; rfl⟩
  | ignored hheartbeat | confirmed _ _ hheartbeat =>
    rw [hmethod] at hheartbeat
    cases hheartbeat

variable [ProxyEngine τ] [CertManager τ]

/-- The callee goes on welcoming the caller. -/
lemma Welcoming.of_turn (h : p.Welcoming) (htoken : p.callee.view.cluster.token = p.clusterToken)
    (hturn : p.Turn e q) (hportable : q.Portable) : q.Welcoming := by
  cases hturn with
  | idle => exact h
  | @call now node =>
    refine ⟨fun s hs => ?_, h.welcomes, h.given⟩
    rcases List.mem_cons.1 hs with rfl | hs
    · rw [request]
      split_ifs
      · exact .inr ⟨_, rfl⟩
      · exact .inl rfl
    · exact h.sent s hs
  | @deliver place fresh now m e hplace =>
    have hsent := List.mem_of_getElem? hplace
    have hs : ∃ t, (m, e) = p.registration ∨ (m, e) = p.heartbeat t := by
      rcases h.sent _ hsent with hs | ⟨t, hs⟩
      · exact ⟨"", .inl hs⟩
      · exact ⟨t, .inr hs⟩
    obtain ⟨t, hs⟩ := hs
    have hhandled := handled_serve t htoken hs (hportable.1 _ hsent) (hportable.2 _ (List.mem_cons_self ..))
    have hissued := exists_issued_of_handled h.welcomes htoken hhandled
    have hwelcomes := h.welcomes.of_handled (p.callee.setting_serve m e fresh now) hhandled
    refine ⟨h.sent, hwelcomes, fun g hg => ?_⟩
    rcases List.mem_cons.1 hg with rfl | hg
    · exact hissued
    · exact h.given g hg
  | land | miss =>
    refine ⟨by simpa using h.sent, ?_, by simpa using h.given⟩
    rw [this_settle]
    exact h.welcomes
  | evict => exact ⟨h.sent, h.welcomes.evict _, h.given⟩
  | evictCaller => exact ⟨h.sent, h.welcomes, h.given⟩

lemma Welcoming.run {es : List Event} (h : p.Welcoming)
    (htoken : p.callee.view.cluster.token = p.clusterToken) (hportable : (p.run es).Portable) :
    (p.run es).Welcoming := by
  induction es generalizing p with
  | nil => exact h
  | cons e es ih =>
    have h' := h.of_turn htoken (p.turn_step e) (Portable.of_run hportable)
    exact ih h' (by simpa using htoken) hportable

/-! ### The token of a pair -/

/-- Two nodes start without tokens, and the one keeps in touch with the other.  Then at most one token is
ever issued, every registration is answered with it unless it is turned down, and the caller presents
either none or the one that the callee expects. -/
theorem one_token_of_punctual {a : EndNode σ} {b : EndNode τ}
    (htoken : b.view.cluster.token = a.view.cluster.token)
    (hout : ∀ node ∈ (start a b).calleeRecord?, node.outToken = "")
    (hin : ∀ node ∈ (start a b).callerRecord?, node.inToken = "") {es : List Event}
    (hfresh : ∀ place now, .deliver place "" now ∉ es) (htimely : (start a b).Punctual es)
    (hportable : ((start a b).run es).Portable) :
    let later := (start a b).run es
    (later.given.filter (·.mints later.clusterToken)).length ≤ 1 ∧
      (∃ token, (∀ g ∈ later.given, ∀ t ∈ g.issued? later.clusterToken, t = token) ∧
        (b.Welcomes a.this → ∀ g ∈ later.given, g.method = .register →
          g.issued? later.clusterToken = some token)) ∧
      ∀ node ∈ later.calleeRecord?, node.outToken = "" ∨
        ∃ record, later.callerRecord? = some record ∧ record.inToken = node.outToken := by
  intro later
  have hstart : (start a b).Agreed none :=
    ⟨.nothing rfl hin, fun s hs => absurd hs List.not_mem_nil, fun g hg => absurd hg List.not_mem_nil,
      rfl, fun node hnode => .inl (hout node hnode)⟩
  obtain ⟨issued, hagreed⟩ : ∃ issued, later.Agreed issued :=
    hstart.run htoken hportable hfresh htimely
  have hwelcoming (hwelcomes : b.Welcomes a.this) : later.Welcoming :=
    Welcoming.run ⟨fun s hs => absurd hs List.not_mem_nil, hwelcomes,
      fun g hg => absurd hg List.not_mem_nil⟩ htoken hportable
  clear_value later
  have hgiven : ∀ g ∈ later.given, ∀ t ∈ g.issued? later.clusterToken, t = issued.getD "" := by
    intro g hg t ht
    rw [hagreed.given g hg t ht]
    rfl
  refine ⟨?_, ⟨issued.getD "", hgiven, fun hwelcomes g hg hmethod => ?_⟩, fun node hnode => ?_⟩
  · rw [hagreed.mints]
    cases issued <;> simp
  · obtain ⟨t, ht⟩ := (hwelcoming hwelcomes).given g hg hmethod
    rw [ht, hgiven g hg t ht]
  · refine (hagreed.presents node hnode).imp_right fun hissued => ?_
    have hkeeps := hagreed.keeps
    rw [hissued] at hkeeps
    generalize node.outToken = t at hkeeps
    cases hkeeps with
    | token record _ hget => exact ⟨record, hget, rfl⟩

/-! ### A registration that arrives twice -/

def registered (callee : EndNode Unconfigured) (fresh : String) (now : Instant) : EndNode Unconfigured :=
  { callee with view.cluster := (callee.view.cluster.register thisOne "s" "b" fresh now).1 }

def granted (already : Bool) (now : Instant) : Answered :=
  ⟨.register, .ok ((Cluster.registrationReply (.ok ⟨"t", already⟩)).close .cluster "s" "prod" "b"
    .register), now⟩

lemma portable_granted (already : Bool) (now : Instant) : (granted already now).Portable := by
  rintro e he
  cases he
  exact Envelope.portable_close_iff.2 (by cases already <;> decide +kernel)

def waiting (callee : EndNode Unconfigured) (given : List Answered) : Pair Unconfigured Unconfigured :=
  ⟨one (.fixed otherOne 0), callee, some (⟨.peers, .fixed otherOne 0⟩, 0), [enrolment], given⟩

lemma step_waiting {callee : EndNode Unconfigured} {already : Bool} {fresh : String} {now : Instant}
    (hsetting : callee.view.setting = (two .empty).view.setting)
    (hresult : (callee.view.cluster.register thisOne "s" "b" fresh now).2 = .ok ⟨"t", already⟩)
    (given : List Answered) :
    (waiting callee given).step (.deliver 0 fresh now) =
      waiting (registered callee fresh now) (granted already now :: given) := by
  have hthis : (waiting callee given).callee.this.name = "b" := congrArg (·.1.name) hsetting
  have hname : (waiting callee given).callee.view.cluster.name = "prod" := congrArg (·.2.1) hsetting
  have hstep := step_deliver_registration (p := waiting callee given) 0 (congrArg (·.2.2) hsetting) rfl
    portable_enrolment fresh now
  rw [hstep, hthis, hname, granted, ← hresult]
  rfl

/-- Two nodes without tokens. -/
def strangers : Pair Unconfigured Unconfigured := start (one (.fixed otherOne 0)) (two .empty)

/-- The registration arrives twice, and the second answer gets through. -/
def repeated : List Event := [.call 0, .deliver 0 "t" 1, .deliver 0 "u" 2, .land 0 3]

def answered : Pair Unconfigured Unconfigured :=
  waiting (registered (registered (two .empty) "t" 1) "u" 2) [granted true 2, granted false 1]

/-- The second answer finds the contact still waiting. -/
lemma run_repeated :
    strangers.run repeated =
      answered.settle ⟨.peers, .fixed otherOne 0⟩ 0 (some (granted true 2).answer) 3 := by
  have hcall : strangers.step (.call 0) = waiting (two .empty) [] := by
    have hnode : strangers.calleeRecord? = some (.fixed otherOne 0) := get?_one _
    have hrequest : strangers.request (.fixed otherOne 0) 0 = enrolment := if_neg (by decide)
    rw [step_call rfl hnode, hrequest]
    rfl
  have hfirst : (waiting (two .empty) []).step (.deliver 0 "t" 1) =
      waiting (registered (two .empty) "t" 1) [granted false 1] := step_waiting rfl (by decide +kernel) []
  have hsecond : (waiting (registered (two .empty) "t" 1) [granted false 1]).step (.deliver 0 "u" 2) =
      answered := step_waiting (by decide +kernel) (by decide +kernel) _
  have hmethod : (granted true 2).method = Contact.method ⟨.peers, .fixed otherOne 0⟩ 0 := by decide
  rw [repeated, run_cons, run_cons, run_cons, run_cons, run_nil, hcall, hfirst, hsecond]
  exact step_land rfl rfl hmethod 3

lemma punctual_repeated : strangers.Punctual repeated := by
  refine punctual_of_within 0 (fun g hg => absurd hg List.not_mem_nil) ?_
  simp [repeated, Event.Within, Cluster.Covers, heartbeatTimeout, Span.seconds]

lemma portable_repeated : (strangers.run repeated).Portable := by
  rw [run_repeated]
  refine ⟨?_, ?_⟩
  · simpa [answered, waiting] using portable_enrolment
  · simpa [answered, waiting] using ⟨portable_granted true 2, portable_granted false 1⟩

lemma calleeRecord?_repeated :
    (strangers.run repeated).calleeRecord? =
      some { Node.fixed otherOne 0 with outToken := "t", reportedAt := some 3 } := by
  have hbefore : answered.calleeRecord? = some (.fixed otherOne 0) := get?_one _
  have houtcome (rpcTimeout : Span) :
      Contact.outcome "s" .register rpcTimeout (some (granted true 2).answer) = .ok ⟨some "t", []⟩ :=
    Answered.outcome_close (EndNode.answers_registrationReply _) (portable_granted true 2 _ rfl) _
  rw [run_repeated, calleeRecord?_settle_of_some hbefore rfl]
  exact congrArg (fun o => some (Contact.settled o 3 (Node.fixed otherOne 0))) (houtcome _)

/-- The token that a registration is answered with twice is the one that the node presents. -/
theorem one_token_of_punctual_repeated :
    let later := strangers.run repeated
    strangers.callee.view.cluster.token = strangers.caller.view.cluster.token ∧ later.Portable ∧
      strangers.Punctual repeated ∧ (later.given.filter (·.mints later.clusterToken)).length ≤ 1 ∧
      ∃ node record, later.calleeRecord? = some node ∧ later.callerRecord? = some record ∧
        node.outToken = "t" ∧ record.inToken = node.outToken := by
  intro later
  have htoken : strangers.callee.view.cluster.token = strangers.caller.view.cluster.token := rfl
  have hcallee : strangers.calleeRecord? = some (.fixed otherOne 0) := get?_one _
  have hcaller : strangers.callerRecord? = none := Roster.get?_empty "a"
  have hout : ∀ node ∈ strangers.calleeRecord?, node.outToken = "" := by
    intro node hnode
    rw [hcallee] at hnode
    cases hnode
    rfl
  have hin : ∀ node ∈ strangers.callerRecord?, node.inToken = "" := by
    intro node hnode
    rw [hcaller] at hnode
    cases hnode
  have hfresh : ∀ place now, .deliver place "" now ∉ repeated := by simp [repeated]
  have hagree := one_token_of_punctual htoken hout hin hfresh punctual_repeated portable_repeated
  have hne : ({ Node.fixed otherOne 0 with outToken := "t", reportedAt := some 3 } : Node).outToken ≠ "" := by
    decide
  obtain ⟨record, hget, hinToken⟩ := (hagree.2.2 _ calleeRecord?_repeated).resolve_left hne
  exact ⟨htoken, portable_repeated, punctual_repeated, hagree.1, _, record, calleeRecord?_repeated, hget,
    rfl, hinToken⟩

end Pair

end Flotilla
