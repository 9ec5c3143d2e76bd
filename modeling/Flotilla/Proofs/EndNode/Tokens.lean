import Flotilla.Proofs.EndNode.Events

/-!
# Whose tokens a node holds

A token that a node presents to a peer was granted to it by a registration.  The contact that brought it
is settled by name, long after it was planned: it is on target if the record under the name is still
about the peer that was called.  Where all contacts are on target, each record holds a token of its own
peer; a contact that is not gives the token of one peer to the record of another.
-/

namespace Flotilla

open Rpc (Answer CallError Method Reply)

/-! ### Replies to contacts -/

/-- A reply to a heartbeat carries peers. -/
lemma Rpc.exists_peers_of_ofData? {ds : List Wire.Datum} {body : Rpc.Body}
    (h : Rpc.Body.ofData? .heartbeat ds = some body) : ∃ peers, body = .peers peers := by
  match ds with
  | [] => cases h
  | [_] =>
    obtain ⟨peers, -, rfl⟩ := Option.map_eq_some_iff.1 h
    exact ⟨peers, rfl⟩
  | _ :: _ :: _ => cases h

/-- A reply to a registration carries a token. -/
lemma Rpc.exists_token_of_ofData? {ds : List Wire.Datum} {body : Rpc.Body}
    (h : Rpc.Body.ofData? .register ds = some body) : ∃ token, body = .token token := by
  unfold Rpc.Body.ofData? at h
  split at h
  case h_1 =>
    cases h
    exact ⟨_, rfl⟩
  all_goals contradiction

/-- The body of a reply is read as the method asks for. -/
lemma Rpc.exists_ofData?_of_reply {token : String} {m : Method} {rpcTimeout : Span}
    {answer : Option Answer} {r : Reply} (h : Rpc.reply token m rpcTimeout answer = .ok r) :
    ∃ ds, Rpc.Body.ofData? m ds = some r.body := by
  match answer with
  | none => cases h
  | some (.error s) => cases h
  | some (.ok e) =>
    unfold Rpc.reply at h
    cases hopen : Reply.open? token m e with
    | error fault =>
      simp only [hopen] at h
      cases h
    | ok reply =>
      simp only [hopen] at h
      cases h
      obtain ⟨ds, -, hread⟩ := exists_of_bind_eq_ok hopen
      split at hread
      · rename_i reply hreply
        cases hread
        unfold Reply.ofData? at hreply
        split at hreply
        · obtain ⟨body, hbody, rfl⟩ := Option.map_eq_some_iff.1 hreply
          exact ⟨_, hbody⟩
        · cases hreply
      · cases hread

namespace Contact

variable {token : String} {rpcTimeout : Span} {answer : Option Answer} {news : News}

/-- Only a registration is answered with a token. -/
lemma issued_eq_none_of_heartbeat
    (h : (Rpc.reply token .heartbeat rpcTimeout answer).bind Contact.news = .ok news) :
    news.issued = none := by
  obtain ⟨r, hreply, hnews⟩ := exists_of_bind_eq_ok h
  obtain ⟨ds, hbody⟩ := Rpc.exists_ofData?_of_reply hreply
  obtain ⟨peers, hpeers⟩ := Rpc.exists_peers_of_ofData? hbody
  unfold Contact.news at hnews
  simp only [hpeers] at hnews
  split_ifs at hnews
  cases hnews
  rfl

/-- Only a heartbeat is answered with peers. -/
lemma eq_issued_of_register
    (h : (Rpc.reply token .register rpcTimeout answer).bind Contact.news = .ok news) :
    ∃ issued, news = ⟨some issued, []⟩ := by
  obtain ⟨r, hreply, hnews⟩ := exists_of_bind_eq_ok h
  obtain ⟨ds, hbody⟩ := Rpc.exists_ofData?_of_reply hreply
  obtain ⟨issued, hissued⟩ := Rpc.exists_token_of_ofData? hbody
  unfold Contact.news at hnews
  simp only [hissued] at hnews
  split_ifs at hnews
  cases hnews
  exact ⟨issued, rfl⟩

/-- The token of a record after a contact: none, the one that the contact brought, or that from before. -/
lemma outToken_settled_cases (outcome : Except CallError News) (now : Instant) (node : Node) :
    (settled outcome now node).outToken = "" ∨
      (∃ news token, outcome = .ok news ∧ news.issued = some token ∧
        (settled outcome now node).outToken = token) ∨
      (settled outcome now node).outToken = node.outToken := by
  cases outcome with
  | error e => exact .inl rfl
  | ok news =>
    cases hissued : news.issued with
    | some token => exact .inr (.inl ⟨news, token, rfl, hissued, by simp [settled, succeeded, hissued]⟩)
    | none => exact .inr (.inr (by simp [settled, succeeded, hissued]))

/-- Only a registration brings a token. -/
lemma method_eq_register {c : Contact} {called : Instant} {issued : String}
    (h : (Rpc.reply token (c.method called) rpcTimeout answer).bind Contact.news = .ok news)
    (hissued : news.issued = some issued) : c.method called = .register := by
  unfold method at h ⊢
  split_ifs at h ⊢
  · rw [issued_eq_none_of_heartbeat h] at hissued
    cases hissued
  · rfl

end Contact

namespace Running

variable {σ : Type} {r : Running σ} {c : Contact} {called now : Instant} {answer : Option Answer}

lemma outcome_of_reply {reply : Reply} {news : News}
    (h : Rpc.reply r.node.view.cluster.token (c.method called) r.node.intervals.rpcTimeout answer =
      .ok reply)
    (hnews : Contact.news reply = .ok news) : r.outcome c called answer = .ok news := by
  rw [outcome, h]
  exact hnews

/-! ### Contacts on target -/

/-- A contact that is settled by an event is on target if the record under the name of its peer, if there
is one, is about this peer. -/
def Hits (r : Running σ) : Event → Prop
  | .land place _ _ _ => ∀ c ∈ r.flights[place]?, ∀ node ∈ (r.roster c.side).get? c.node.name,
      node.identity = c.node.identity
  | _ => True

instance (r : Running σ) : ∀ e, Decidable (r.Hits e)
  | .land place _ _ _ => inferInstanceAs (Decidable (∀ c ∈ r.flights[place]?,
      ∀ node ∈ (r.roster c.side).get? c.node.name, node.identity = c.node.identity))
  | .serve .. | .plan _ | .merge .. | .evict _ | .addLocal .. | .deleteNode _ | .setCenter .. =>
    isTrue trivial

/-! ### Granted tokens -/

/-- A token was granted to the node by a peer with a name, and if `aim` holds by the peer that the record
is about. -/
def Granted (aim : Prop) (granted : List (Identity × String)) (key : String) (node : Node) : Prop :=
  ∃ who, (who, node.outToken) ∈ granted ∧ who.name = key ∧ (aim → who = node.identity)

/-- All tokens that the node would present were granted to it. -/
def AllGranted (aim : Prop) (r : Running σ) : Prop :=
  ∀ side key node, (r.roster side).get? key = some node → node.outToken ≠ "" →
    Granted aim r.granted key node

/-- A record that keeps its identity and its token keeps its grant, whatever else is granted. -/
lemma Granted.mono {aim : Prop} {granted granted' : List (Identity × String)} {key : String}
    {node node' : Node} (h : Granted aim granted key node) (hid : node'.identity = node.identity)
    (hout : node'.outToken = node.outToken) (hsub : granted ⊆ granted') :
    Granted aim granted' key node' := by
  obtain ⟨who, hmem, hname, hwho⟩ := h
  refine ⟨who, ?_, hname, fun ha => (hwho ha).trans hid.symm⟩
  rw [hout]
  exact hsub hmem

/-- A token that a contact brings is granted to the peer it was planned for. -/
lemma mem_granted_land {news : News} {token : String} (h : r.outcome c called answer = .ok news)
    (hissued : news.issued = some token) :
    (c.node.identity, token) ∈ (grant? c called (r.outcome c called answer)).toList := by
  have hmethod := Contact.method_eq_register h hissued
  simp [h, grant?, hmethod, hissued]

/-- What a contact brings is granted to the record that it is settled in. -/
lemma Granted.of_issued {aim : Prop} {news : News} {token : String} {node : Node}
    (houtcome : r.outcome c called answer = .ok news) (hissued : news.issued = some token)
    (htoken : node.outToken = token) (haim : aim → node.identity = c.node.identity) :
    Granted aim ((grant? c called (r.outcome c called answer)).toList ++ r.granted) c.node.name node := by
  refine ⟨c.node.identity, List.mem_append_left _ ?_, rfl, fun ha => (haim ha).symm⟩
  rw [htoken]
  exact mem_granted_land houtcome hissued

/-- A node starts without tokens. -/
lemma allGranted_start {s : Settings σ} {built : Instant} {n : EndNode σ} (h : s.build built = .ok n)
    (aim : Prop) : (start n).AllGranted aim := by
  intro side key node hget htoken
  cases Settings.descends_build h side key node hget with
  | fresh hout => exact absurd hout htoken
  | kept hold => simp at hold

/-! ### Runs -/

variable [ProxyEngine σ] [CertManager σ]

lemma step_land {place : ℕ} {outcome : Except CallError News} (hplace : r.flights[place]? = some c)
    (houtcome : r.outcome c called answer = outcome) :
    r.step (.land place called answer now) =
      { r with
        node.view := r.node.view.settle c outcome now
        flights := r.flights.eraseIdx place
        granted := (grant? c called outcome).toList ++ r.granted } := by
  simp only [step, hplace, houtcome]

def OnTarget : Running σ → List Event → Prop
  | _, [] => True
  | r, e :: es => r.Hits e ∧ OnTarget (r.step e) es

instance : ∀ (r : Running σ) es, Decidable (r.OnTarget es)
  | _, [] => isTrue trivial
  | r, e :: es =>
    have : Decidable ((r.step e).OnTarget es) := instDecidableOnTarget (r.step e) es
    inferInstanceAs (Decidable (r.Hits e ∧ (r.step e).OnTarget es))

/-- No event gives a record a token that was not granted. -/
lemma AllGranted.step {aim : Prop} (h : r.AllGranted aim) (e : Event) (haim : aim → r.Hits e) :
    (r.step e).AllGranted aim := by
  intro side key node hget htoken
  rcases r.step_cases e with
    ⟨hdescends, hgranted⟩ | ⟨place, called, answer, now, c, rfl, hplace, hview, hgranted⟩
  · rw [hgranted]
    cases hdescends side key node hget with
    | fresh hout => exact absurd hout htoken
    | @kept old hold hid hout =>
      exact (h side key old hold (hout ▸ htoken)).mono hid hout (List.Subset.refl _)
  · rw [hgranted]
    rw [roster, hview] at hget
    rcases PeerView.get?_settle hget with ⟨peer, rfl⟩ | ⟨old, hold, rfl⟩
    · exact absurd rfl htoken
    · split_ifs at htoken ⊢ with hkey
      · -- the contact is settled in this record, which need not be about the peer that was called
        obtain ⟨rfl, rfl⟩ := hkey
        have hid := Contact.identity_settled (r.outcome c called answer) now old
        rcases Contact.outToken_settled_cases (r.outcome c called answer) now old with
          hnone | ⟨news, token, houtcome, hissued, hout⟩ | hout
        · exact absurd hnone htoken
        · exact .of_issued houtcome hissued hout fun ha => hid.trans (haim ha c hplace old hold)
        · exact (h c.side c.node.name old hold (hout ▸ htoken)).mono hid hout
            (List.subset_append_right _ _)
      · exact (h side key old hold htoken).mono rfl rfl (List.subset_append_right _ _)

/-- The tokens of a run were all granted in it; the induction is on its events. -/
lemma AllGranted.run {aim : Prop} (h : r.AllGranted aim) {es : List Event}
    (haim : aim → r.OnTarget es) : (r.run es).AllGranted aim := by
  induction es generalizing r with
  | nil => exact h
  | cons e es ih => exact ih (h.step e fun ha => (haim ha).1) fun ha => (haim ha).2

/-! ### Failed contacts -/

/-- A failed contact changes no record but the one under the name of its peer. -/
lemma get?_step_land_of_error {place : ℕ} {error : CallError} (hplace : r.flights[place]? = some c)
    (herror : r.outcome c called answer = .error error) (side : Side) (key : String) :
    ((r.step (.land place called answer now)).roster side).get? key =
      if c.side = side ∧ c.node.name = key then
        ((r.roster side).get? key).map (Contact.failed now)
      else (r.roster side).get? key := by
  rw [step_land hplace herror]
  exact PeerView.get?_updateSide r.node.view c.side side c.node.name key (Contact.failed now)

/-! ### Tokens and their peers -/

/-- Each token that a node would present was granted to it by a peer that goes by the name of the record,
and by the very peer that the record is about if all contacts were on target.  A failed contact that is on
target leaves the records of all other peers alone. -/
theorem granted_of_outToken_ne {s : Settings σ} {built : Instant} {n : EndNode σ}
    (hbuild : s.build built = .ok n) (es : List Event) :
    let later := (start n).run es
    (∀ side key node, (later.roster side).get? key = some node → node.outToken ≠ "" →
      ∃ who, (who, node.outToken) ∈ later.granted ∧ who.name = key ∧
        ((start n).OnTarget es → who = node.identity)) ∧
    ∀ place called answer now c error, later.flights[place]? = some c →
      later.outcome c called answer = .error error → later.Hits (.land place called answer now) →
      ∀ side key node, (later.roster side).get? key = some node → node.identity ≠ c.node.identity →
        ((later.step (.land place called answer now)).roster side).get? key = some node := by
  intro later
  constructor
  · exact (allGranted_start hbuild ((start n).OnTarget es)).run id
  · intro place called answer now c error hplace herror hhits side key node hget hother
    rw [get?_step_land_of_error hplace herror, if_neg, hget]
    rintro ⟨rfl, rfl⟩
    exact hother (hhits c hplace node hget)

/-! ### A contact with a peer that is replaced -/

def pair : Settings Unconfigured :=
  { Settings.new ⟨"a", "10.0.0.1", 5000, "prod"⟩ "s" ⟨⟩ with staticNodes := [⟨"x", "10.0.0.2", 5000⟩] }

lemma build_pair : pair.build 0 = .ok (pair.built 0) := Settings.build_eq_ok (by decide +kernel)

/-- The answer to a registration: the token `t`, sealed with the token of the cluster. -/
def grant : Answer :=
  .ok ⟨"prod", "x", 0,
    [79, 30, 228, 56, 44, 188, 95, 1, 220, 93, 11, 93, 183, 34, 47, 204, 57, 63, 135, 127, 122, 101, 184,
      170, 145, 241, 177, 83, 126, 146, 243, 195, 93, 205, 58, 5, 183, 101, 22, 226, 80, 69, 225, 126, 181, 198,
      233, 173]⟩

lemma reply_grant : Rpc.reply "s" .register (Span.seconds 3) (some grant) = .ok ⟨0, "", .token "t"⟩ := by
  decide +kernel

/-- A registration that is answered gives its token to the record. -/
lemma step_land_grant {place : ℕ} (hplace : r.flights[place]? = some c)
    (htoken : r.node.view.cluster.token = "s") (htimeout : r.node.intervals.rpcTimeout = Span.seconds 3)
    (hmethod : c.method called = .register) :
    r.step (.land place called (some grant) now) =
      { r with
        node.view := r.node.view.settle c (.ok ⟨some "t", []⟩) now
        flights := r.flights.eraseIdx place
        granted := (c.node.identity, "t") :: r.granted } := by
  have houtcome : r.outcome c called (some grant) = .ok ⟨some "t", []⟩ :=
    outcome_of_reply (by rw [htoken, htimeout, hmethod, reply_grant]) rfl
  have hgrant : grant? c called (.ok ⟨some "t", []⟩) = some (c.node.identity, "t") := by
    simp [grant?, hmethod]
  rw [step_land hplace houtcome, hgrant, Option.toList_some, List.singleton_append]

/-- The node has planned a contact with its peer. -/
def planned : Running Unconfigured := (start (pair.built 0)).step (.plan .peers)

/-- Meanwhile another peer takes over the name. -/
def replaced : Running Unconfigured := planned.step (.addLocal ⟨"x", "10.0.0.3", 5000⟩ 0)

/-- The first contact with a peer brings a token, which its record holds from then on. -/
theorem granted_of_outToken_ne_first_contact :
    let x : Identity := ⟨"x", "10.0.0.2", 5000, "prod"⟩
    let es : List Event := [.plan .peers, .land 0 0 (some grant) 1]
    pair.build 0 = .ok (pair.built 0) ∧ (start (pair.built 0)).OnTarget es ∧
      ∃ node, (((start (pair.built 0)).run es).roster .peers).get? "x" = some node ∧
        node.identity = x ∧ node.outToken = "t" ∧
        (x, node.outToken) ∈ ((start (pair.built 0)).run es).granted := by
  intro x es
  have htarget : (start (pair.built 0)).OnTarget es := by decide +kernel
  have hplace : planned.flights[0]? = some ⟨.peers, .fixed x 0⟩ := by decide +kernel
  have hget : (((start (pair.built 0)).run es).roster .peers).get? "x" =
      some { Node.fixed x 0 with outToken := "t", reportedAt := some 1 } := by
    rw [run_cons, run_cons, run_nil, ← planned,
      step_land_grant hplace (by decide +kernel) (by decide +kernel) (by decide +kernel)]
    decide +kernel
  obtain ⟨hgranted, -⟩ := granted_of_outToken_ne build_pair es
  obtain ⟨who, hmem, -, hwho⟩ := hgranted .peers "x" _ hget (by decide)
  refine ⟨build_pair, htarget, _, hget, rfl, rfl, ?_⟩
  rw [hwho htarget] at hmem
  exact hmem

/-- A contact with a peer is under way when another peer takes over its name.  The record of the new peer
is given the token of the old one, or it is stamped although nobody called the new one. -/
theorem settled_of_replaced_peer :
    let x : Identity := ⟨"x", "10.0.0.2", 5000, "prod"⟩
    let other : Identity := ⟨"x", "10.0.0.3", 5000, "prod"⟩
    let answered := replaced.step (.land 0 0 (some grant) 2)
    let missed := replaced.step (.land 0 0 none 2)
    pair.build 0 = .ok (pair.built 0) ∧
      (replaced.roster .peers).get? "x" = some (.fixed other 0) ∧
      (answered.roster .peers).get? "x" =
        some { Node.fixed other 0 with outToken := "t", reportedAt := some 2 } ∧
      answered.granted = [(x, "t")] ∧
      (missed.roster .peers).get? "x" = some { Node.fixed other 0 with reportedAt := some 2 } := by
  intro x other answered missed
  have hplace : replaced.flights[0]? = some ⟨.peers, .fixed x 0⟩ := by decide +kernel
  have hanswered : answered = { replaced with
      node.view := replaced.node.view.settle ⟨.peers, .fixed x 0⟩ (.ok ⟨some "t", []⟩) 2
      flights := replaced.flights.eraseIdx 0
      granted := (x, "t") :: replaced.granted } :=
    step_land_grant hplace (by decide +kernel) (by decide +kernel) (by decide +kernel)
  refine ⟨build_pair, by decide +kernel, ?_, ?_, by decide +kernel⟩
  · rw [hanswered]
    decide +kernel
  · rw [hanswered]
    decide +kernel

end Running

end Flotilla
