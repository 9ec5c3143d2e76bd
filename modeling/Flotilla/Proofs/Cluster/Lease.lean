import Flotilla.Proofs.Cluster.Events

/-!
# Leases

A node that was given a token, or proved itself with it, holds a lease: until the timeout has passed,
nothing that others do makes the cluster forget the node or change its token.  Registration,
authentication and eviction each have a test of their own for the timeout; a lease is what they share.
-/

namespace Flotilla.Cluster

variable {c c' : Cluster} {who : Identity} {token : String} {opened now t : Instant} {node : Node}

/-! ### Records with an address -/

/-- All records with a token are about nodes that can be reached.  So it is in every cluster that began
without nodes. -/
def Addressed (c : Cluster) : Prop :=
  ∀ name node, c.nodes.get? name = some node → node.inToken ≠ "" → node.identity.HasAddress

lemma addressed_new (name token : String) : (new name token).Addressed := by
  intro key node hget
  simp [new] at hget

/-- Only registrations give tokens, and they ask for an address. -/
lemma Addressed.step (h : c.Addressed) {e : Event} (he : e.IsPlain) : (c.step e).1.Addressed := by
  intro name node hget htoken
  have hchange : Change c name (e, (c.step e).2) (some node) := hget ▸ change_step c name e
  rcases hchange.admitted_or_known he htoken with
    ⟨claimed, credentials, server, fresh, now, r, -, rfl, hr, rfl⟩ | ⟨known, hknown, hid, hin, -⟩
  · rw [identity_admitted_of_ok hr r.token now]
    exact (screen_eq_ok_iff.1 (register_eq_ok_iff.1 hr).1).1
  · rw [hid]
    exact h name known hknown (by rwa [← hin])

/-- Plain events put no record under a name that is not its own. -/
lemma Addressed.run (h : c.Addressed) {es : List Event} (hes : ∀ e ∈ es, e.IsPlain) :
    (c.run es).Addressed := by
  induction es generalizing c with
  | nil => exact h
  | cons e es ih =>
    exact ih (h.step (hes e (by simp))) fun e' he' => hes e' (by simp [he'])

/-! ### Leased records -/

/-- The instants at which a lease is in force. -/
def Covers (opened t : Instant) : Prop := opened ≤ t ∧ t < opened + (heartbeatTimeout : Int)

instance : Decidable (Covers opened t) := inferInstanceAs (Decidable (_ ∧ _))

/-- A record keeps a lease if it is about the node, has its token, and heard from it since the lease
was opened. -/
structure Leased (who : Identity) (token : String) (opened : Instant) (node : Node) : Prop where
  identity_eq : node.identity = who
  inToken_eq : node.inToken = token
  heard : ∃ s, node.heardAt = some s ∧ opened ≤ s

/-- A signal from within a lease is recent all through it. -/
lemma isRecent_of_covers {s : Instant} (hs : opened ≤ s) (ht : Covers opened t) :
    s.isRecent t = true := by
  obtain ⟨-, hlt⟩ := ht
  have hage : t - s < (heartbeatTimeout : Int) :=
    Int.sub_left_lt_of_lt_add (Int.lt_of_lt_of_le hlt (Int.add_le_add_right hs _))
  simpa [Instant.isRecent] using hage

namespace Leased

variable (h : Leased who token opened node)

include h

lemma registeredLocalAt (htoken : token ≠ "") (ht : Covers opened t) :
    node.registeredLocalAt t = true := by
  obtain ⟨s, hheard, hs⟩ := h.heard
  simp [Node.registeredLocalAt, h.inToken_eq, htoken, hheard, isRecent_of_covers hs ht]

/-- An eviction spares a record that is leased. -/
lemma survivesAt (ht : Covers opened t) : node.survivesAt t = true := by
  obtain ⟨s, hheard, hs⟩ := h.heard
  simp [Node.survivesAt, Node.isValidAt, hheard, isRecent_of_covers hs ht]

/-- The token of a lease is accepted all through it. -/
lemma credentialFault?_eq_none (htoken : token ≠ "") (ht : Covers opened t) :
    credentialFault? node who token t = none := by
  obtain ⟨s, hheard, hs⟩ := h.heard
  refine credentialFault?_eq_none_iff.2 ⟨h.identity_eq, htoken, h.inToken_eq, fun s' hs' => ?_⟩
  obtain rfl : s = s' := by simpa [hheard] using hs'
  exact isRecent_of_covers hs ht

/-- Another signal keeps a lease. -/
lemma refreshed (hnow : opened ≤ now) : Leased who token opened (Cluster.heard now node) :=
  ⟨h.identity_eq, h.inToken_eq, now, rfl, hnow⟩

/-- A registration of a name under a lease gives the token of the lease. -/
lemma register_eq_ok {claimed : Identity} {credentials server fresh : String} {r : Registration}
    (hname : claimed.name = who.name) (hget : c.nodes.get? who.name = some node) (htoken : token ≠ "")
    (ht : Covers opened t)
    (hr : (c.register claimed credentials server fresh t).2 = .ok r) :
    claimed = who ∧ r = ⟨token, true⟩ := by
  obtain ⟨-, ⟨hnone, -⟩ | ⟨known, hknown, hid, rfl⟩⟩ := register_eq_ok_iff.1 hr
  · rw [hname, hget] at hnone
    cases hnone
  · rw [hname, hget] at hknown
    cases hknown
    refine ⟨hid.symm.trans h.identity_eq, ?_⟩
    rw [if_pos (h.registeredLocalAt htoken ht), h.inToken_eq]

end Leased

/-! ### Leases under events -/

/-- An event does not write to the record under a name directly, or leaves alone what a lease is
about. -/
def Event.Spares (name : String) : Event → Prop
  | .store key _ => key ≠ name
  | .erase key => key ≠ name
  | .replace key f => key = name → ∀ node,
      (f node).identity = node.identity ∧ (f node).inToken = node.inToken ∧
        (f node).heardAt = node.heardAt
  | _ => True

/-- The cluster holds a record that keeps a lease. -/
def HasLease (c : Cluster) (who : Identity) (token : String) (opened : Instant) : Prop :=
  ∃ node, c.nodes.get? who.name = some node ∧ Leased who token opened node

/-- What an event makes of a record that keeps a lease keeps it too. -/
lemma HasLease.of_change (h : c.HasLease who token opened) (htoken : token ≠ "") {entry : Entry}
    {after : Option Node} (hspares : entry.1.Spares who.name)
    (htime : ∀ now ∈ entry.1.time?, Covers opened now) (hchange : Change c who.name entry after) :
    ∃ node, after = some node ∧ Leased who token opened node := by
  obtain ⟨node, hget, hleased⟩ := h
  cases hchange with
  | @admitted claimed credentials server fresh now r hname hr =>
    have hnow : Covers opened now := htime now rfl
    obtain ⟨rfl, rfl⟩ := hleased.register_eq_ok hname hget htoken hnow hr
    refine ⟨_, rfl, identity_admitted_of_ok hr token now, by simp, now, by simp, hnow.1⟩
  | @authenticated claimed _ now known hname hknown hf =>
    rw [hget] at hknown
    cases hknown
    exact ⟨_, rfl, hleased.refreshed (htime now rfl).1⟩
  | @greeted claimed _ now known peers hname hknown hf =>
    rw [hget] at hknown
    cases hknown
    exact ⟨_, rfl, hleased.refreshed (htime now rfl).1⟩
  | @dropped now names known hmem hknown hstale =>
    rw [hget] at hknown
    cases hknown
    rw [hleased.survivesAt (htime now rfl)] at hstale
    cases hstale
  | learned hname hnone =>
    rw [hget] at hnone
    cases hnone
  | settled outcome now =>
    refine ⟨Contact.settled outcome now node, by rw [hget]; rfl, ?_, ?_, ?_⟩
    · rw [Contact.identity_settled, hleased.identity_eq]
    · rw [Contact.inToken_settled, hleased.inToken_eq]
    · rw [Contact.heardAt_settled]
      exact hleased.heard
  | stored => exact absurd rfl hspares
  | erased => exact absurd rfl hspares
  | replaced f =>
    obtain ⟨hid, hin, hheard⟩ := hspares rfl node
    refine ⟨f node, by rw [hget]; rfl, ?_, ?_, ?_⟩
    · rw [hid, hleased.identity_eq]
    · rw [hin, hleased.inToken_eq]
    · rw [hheard]
      exact hleased.heard
  | kept => exact ⟨node, hget, hleased⟩

/-- A lease lasts through any events of its time. -/
lemma HasLease.run (h : c.HasLease who token opened) (htoken : token ≠ "") {es : List Event}
    (hes : ∀ e ∈ es, e.Spares who.name ∧ ∀ now ∈ e.time?, Covers opened now) :
    (c.run es).HasLease who token opened := by
  induction es generalizing c with
  | nil => exact h
  | cons e es ih =>
    obtain ⟨hspares, htime⟩ := hes e (by simp)
    exact ih (h.of_change htoken hspares htime (change_step c who.name e))
      fun e' he' => hes e' (by simp [he'])

/-! ### The lease theorem -/

/-- What opens a lease: an answer to a registration with the token, or a request accepted with it. -/
inductive Opens (c : Cluster) (who : Identity) (token : String) (opened : Instant) : Cluster → Prop where
  | registered {credentials server fresh : String} {already : Bool} (hfresh : fresh ≠ "")
      (h : (c.register who credentials server fresh opened).2 = .ok ⟨token, already⟩) :
      Opens c who token opened (c.register who credentials server fresh opened).1
  | authenticated {n : Node} (hc : c.Addressed) (h : (c.authenticate who token opened).2 = .ok n) :
      Opens c who token opened (c.authenticate who token opened).1

/-- An operation that opens a lease leaves the token in a record of that name. -/
lemma Opens.hasLease (h : Opens c who token opened c') :
    c'.HasLease who token opened ∧ token ≠ "" ∧ who.HasAddress := by
  cases h with
  | @registered credentials server fresh already hfresh h =>
    refine ⟨⟨_, by rw [get?_register_of_ok h, if_pos rfl], ?_⟩, ?_, ?_⟩
    · exact ⟨identity_admitted_of_ok h token opened, by simp, opened, by simp, Int.le_refl _⟩
    · obtain ⟨-, ⟨-, hr⟩ | ⟨node, -, -, hr⟩⟩ := register_eq_ok_iff.1 h
      · cases hr
        exact hfresh
      · split_ifs at hr with hlive
        · cases hr
          intro hempty
          simp [Node.registeredLocalAt, hempty] at hlive
        · cases hr
          exact hfresh
    · exact (screen_eq_ok_iff.1 (register_eq_ok_iff.1 h).1).1
  | authenticated hc h =>
    obtain ⟨node, hget, hf, rfl⟩ := authenticate_eq_ok_iff.1 h
    obtain ⟨hid, htoken, hin, -⟩ := credentialFault?_eq_none_iff.1 hf
    refine ⟨⟨_, by rw [get?_authenticate_of_ok h, if_pos rfl], ?_⟩, htoken, ?_⟩
    · exact ⟨hid, hin, opened, rfl, Int.le_refl _⟩
    · rw [← hid]
      exact hc who.name node hget (by rwa [hin])

/-- Until the timeout has passed since a node was given a token or proved itself with it, and whatever
anybody asks of the cluster meanwhile, the node is accepted with the token, and a registration of it
gives the same token again.  Only a direct edit of its record may end the lease sooner. -/
theorem authenticate_and_register_of_opens (hopens : Opens c who token opened c') {es : List Event}
    (hes : ∀ e ∈ es, e.Spares who.name ∧ ∀ now ∈ e.time?, Covers opened now)
    (ht : Covers opened t) :
    (∃ n, ((c'.run es).authenticate who token t).2 = .ok n) ∧
      ∀ server fresh, server ≠ who.name → who.cluster = c'.name →
        ((c'.run es).register who c'.token server fresh t).2 = .ok ⟨token, true⟩ := by
  obtain ⟨hlease, htoken, haddress⟩ := hopens.hasLease
  obtain ⟨node, hget, hleased⟩ := hlease.run htoken hes
  constructor
  · exact ⟨heard t node, authenticate_eq_ok_iff.2
      ⟨node, hget, hleased.credentialFault?_eq_none htoken ht, rfl⟩⟩
  · intro server fresh hserver hcluster
    refine register_eq_ok_iff.2 ⟨screen_eq_ok_iff.2 ⟨haddress, hserver.symm, ?_, ?_⟩,
      .inr ⟨node, hget, hleased.identity_eq, ?_⟩⟩
    · rw [name_run, hcluster]
    · rw [token_run]
    · rw [if_pos (hleased.registeredLocalAt htoken ht), hleased.inToken_eq]

/-- The lease that a node renews just before its first one ends survives a claim to its name, a wrong
token, a quarantine, a failed contact and an eviction at its last instant. -/
theorem authenticate_and_register_of_opens_under_attack :
    let x : Identity := ⟨"x", "10.0.0.2", 5000, "prod"⟩
    let thief : Identity := ⟨"x", "10.0.0.9", 5000, "prod"⟩
    let c := (new "prod" "secret").run [.register x "secret" "server" "tau" 0]
    let c' := (c.authenticate x "tau" (Span.seconds 59)).1
    let es : List Event :=
      [.register thief "secret" "server" "stolen" (Span.seconds 70),
        .register x "guess" "server" "guessed" (Span.seconds 80),
        .authenticate x "guess" (Span.seconds 75), .learn thief (Span.seconds 60),
        .settle "x" (.error (.timeout (Span.seconds 5))) (Span.seconds 90),
        .evict (Span.seconds 119 - 1)]
    let last : Instant := Span.seconds 119 - 1
    (∃ n, ((c'.run es).authenticate x "tau" last).2 = .ok n) ∧
      ((c'.run es).register x "secret" "server" "unused" last).2 = .ok ⟨"tau", true⟩ := by
  intro x thief c c' es last
  have hc : c.Addressed :=
    (addressed_new "prod" "secret").run fun e he => by
      rw [List.mem_singleton.1 he]
      trivial
  have hopens : Opens c x "tau" (Span.seconds 59) c' := by
    cases h : (c.authenticate x "tau" (Span.seconds 59)).2 with
    | ok n => exact .authenticated hc h
    | error e =>
      have hok : (c.authenticate x "tau" (Span.seconds 59)).2.toOption.isSome := by decide
      simp [h, Except.toOption] at hok
  have hes : ∀ e ∈ es, e.Spares "x" ∧ ∀ now ∈ e.time?, Covers (Span.seconds 59) now := by
    simp only [es, List.forall_mem_cons, Event.Spares, Event.time?, Option.mem_def, Option.some.injEq,
      forall_eq', true_and, List.not_mem_nil, false_imp_iff, implies_true, and_true]
    decide
  have hlast : Covers (Span.seconds 59) last := by decide
  obtain ⟨hauth, hregister⟩ := authenticate_and_register_of_opens hopens hes hlast
  have hname : x.cluster = c'.name := by simp [c', c, x, new]
  have htoken : c'.token = "secret" := by simp [c', c, new]
  rw [htoken] at hregister
  exact ⟨hauth, hregister "server" "unused" (by decide) hname⟩

end Flotilla.Cluster
