import Mathlib.Data.Fintype.Card
import Flotilla.Proofs.EndNode.Records

/-!
# Gossip about a dead peer

The nodes of a cluster ask each other for the peers they know and drop those that were silent for too
long, each at its own pace.  Nothing in a reply tells how old the news is: a peer that is taken up
begins a new life.  So a dead peer may come back to a node that has dropped it, and what bounds its
afterlife is how often it was taken up.
-/

namespace Flotilla

variable {x : String} {s s' now t : Instant} {node : Node} {lag : Span} {n : ℕ}

/-! ### Silent records -/

/-- The record has had no signal since `s`, and may be dropped. -/
structure Node.SilentSince (node : Node) (s : Instant) : Prop where
  createdAt_le : node.createdAt ≤ s
  heardAt_le : ∀ signal ∈ node.heardAt, signal ≤ s
  reportedAt_le : ∀ signal ∈ node.reportedAt, signal ≤ s
  isLocal_eq : node.isLocal = false

/-- A signal is worth nothing once the timeout has passed. -/
lemma Instant.isRecent_eq_false {signal : Instant} (hsignal : signal ≤ s)
    (ht : s + (heartbeatTimeout : Int) ≤ t) : signal.isRecent t = false := by
  have hend : signal + (heartbeatTimeout : Int) ≤ t := (Int.add_le_add_right hsignal _).trans ht
  rw [Instant.isRecent, decide_eq_false_iff_not]
  exact Int.not_lt.2 (Int.le_sub_left_of_add_le hend)

namespace Node.SilentSince

lemma mono (h : node.SilentSince s) (hs : s ≤ s') : node.SilentSince s' where
  createdAt_le := h.createdAt_le.trans hs
  heardAt_le signal hsignal := (h.heardAt_le signal hsignal).trans hs
  reportedAt_le signal hsignal := (h.reportedAt_le signal hsignal).trans hs
  isLocal_eq := h.isLocal_eq

/-- A record that was made before an instant knows of no signal after it. -/
lemma new (peer : Identity) (hnow : now ≤ s) : (Node.new peer now).SilentSince s where
  createdAt_le := hnow
  heardAt_le := by simp [Node.new]
  reportedAt_le := by simp [Node.new]
  isLocal_eq := rfl

/-- A failed contact with a peer that is not local is no signal of it. -/
lemma failed (h : node.SilentSince s) (now : Instant) : (Contact.failed now node).SilentSince s where
  createdAt_le := h.createdAt_le
  heardAt_le := h.heardAt_le
  reportedAt_le := by simpa [Contact.failed, h.isLocal_eq] using h.reportedAt_le
  isLocal_eq := h.isLocal_eq

/-- After a minute of silence a record is not valid. -/
lemma isValidAt_eq_false (h : node.SilentSince s) (ht : s + (heartbeatTimeout : Int) ≤ t) :
    node.isValidAt t = false := by
  have hheard : node.heardAt.any (·.isRecent t) = false :=
    (Option.any_eq_false _ _).2 fun signal hsignal => by
      simp [Instant.isRecent_eq_false (h.heardAt_le signal hsignal) ht]
  have hreported : node.reportedAt.any (·.isRecent t) = false :=
    (Option.any_eq_false _ _).2 fun signal hsignal => by
      simp [Instant.isRecent_eq_false (h.reportedAt_le signal hsignal) ht]
  rw [Node.isValidAt, Instant.isRecent_eq_false h.createdAt_le ht, hheard, hreported]
  rfl

end Node.SilentSince

/-- All records that are stored under a name or about a peer of this name have been silent since `s`. -/
def Cluster.SilentAbout (c : Cluster) (x : String) (s : Instant) : Prop :=
  ∀ key node, c.nodes.get? key = some node → key = x ∨ node.name = x → node.SilentSince s

/-- There is a record under a name or about a peer of this name. -/
def Cluster.Knows (c : Cluster) (x : String) : Prop :=
  ∃ key node, c.nodes.get? key = some node ∧ (key = x ∨ node.name = x)

namespace Cluster.SilentAbout

variable {c : Cluster} (h : c.SilentAbout x s)

include h

lemma mono (hs : s ≤ s') : c.SilentAbout x s' :=
  fun key node hget hx => (h key node hget hx).mono hs

/-- Others that prove themselves do not speak for the name. -/
lemma heartbeat {claimed : Identity} (hclaimed : claimed.name ≠ x) (token : String) (now : Instant) :
    (c.heartbeat claimed token now).1.SilentAbout x s := by
  intro key node hget hx
  rw [heartbeat_fst] at hget
  cases hauth : (c.authenticate claimed token now).2 with
  | error e =>
    rw [get?_authenticate_of_error hauth] at hget
    exact h key node hget hx
  | ok authentic =>
    rw [get?_authenticate_of_ok hauth] at hget
    split_ifs at hget with hkey
    · obtain ⟨known, -, hf, rfl⟩ := authenticate_eq_ok_iff.1 hauth
      obtain ⟨rfl, -⟩ := credentialFault?_eq_none_iff.1 hf
      cases hget
      rcases hx with rfl | hx
      · exact absurd hkey hclaimed
      · exact absurd hx hclaimed
    · exact h key node hget hx

/-- A record is not in the reply to a heartbeat any more once it has been silent for the timeout. -/
lemma name_ne_of_heartbeat {claimed : Identity} {token : String} {peers : List Identity}
    (hok : (c.heartbeat claimed token now).2 = .ok peers)
    (hnow : s + (heartbeatTimeout : Int) ≤ now) : ∀ peer ∈ peers, peer.name ≠ x := by
  rintro peer hpeer rfl
  obtain ⟨n, hn⟩ := exists_heartbeat_eq_ok_iff.1 ⟨peers, hok⟩
  obtain rfl : peers = _ := Except.ok.inj (hok.symm.trans (heartbeat_of_ok hn))
  rw [← heartbeat_fst] at hpeer
  obtain ⟨key, node, hget, hname, hvalid, rfl⟩ := mem_peersFor.1 hpeer
  have hsilent : node.SilentSince s := h.heartbeat hname.symm token now key node hget (.inr rfl)
  rw [hsilent.isValidAt_eq_false hnow] at hvalid
  cases hvalid

/-- An eviction is no signal. -/
lemma evict (now : Instant) : (c.evictStale now).1.SilentAbout x s := by
  intro key node hget hx
  rw [nodes_evictStale, Roster.get?_filter] at hget
  exact h key node (Option.filter_eq_some_iff.1 hget).1 hx

end Cluster.SilentAbout

/-! ### Fleets -/

/-- The peers that a node was told, on their way to it. -/
structure Letter (n : ℕ) where
  reader : Fin n
  peers : List Identity
  sent : Instant

/-- Some nodes of a cluster, and the replies under way between them. -/
structure Fleet (n : ℕ) where
  views : Fin n → PeerView
  letters : List (Letter n)

namespace Fleet

/-- What may happen in a fleet. -/
inductive Event (n : ℕ) where
  /-- A node sends a heartbeat to another one; the reply is under way if there is one. -/
  | ask (asker replier : Fin n) (token : String) (now : Instant)
  /-- A node merges a reply, unless it comes too late. -/
  | merge (place : ℕ) (now : Instant)
  | evict (i : Fin n) (now : Instant)
  /-- A node does not reach a peer. -/
  | miss (i : Fin n) (name : String) (now : Instant)

def start (views : Fin n → PeerView) : Fleet n := ⟨views, []⟩

def setView (f : Fleet n) (i : Fin n) (v : PeerView) : Fleet n :=
  { f with views := Function.update f.views i v }

/-- The fleet after an event, if replies take no longer than `lag`. -/
def step (lag : Span) (f : Fleet n) : Event n → Fleet n
  | .ask asker replier token now =>
    let (cluster, result) := (f.views replier).cluster.heartbeat (f.views asker).this token now
    let f := f.setView replier { f.views replier with cluster }
    match result with
    | .ok peers => { f with letters := f.letters ++ [⟨asker, peers, now⟩] }
    | .error _ => f
  | .merge place now =>
    match f.letters[place]? with
    | none => f
    | some letter =>
      let f := { f with letters := f.letters.eraseIdx place }
      if now ≤ letter.sent + lag then
        f.setView letter.reader ((f.views letter.reader).mergePeers letter.peers now).1
      else f
  | .evict i now => f.setView i ((f.views i).evict now).1
  | .miss i name now => f.setView i ((f.views i).updateSide .peers name (Contact.failed now))

def run (lag : Span) (f : Fleet n) (es : List (Event n)) : Fleet n := es.foldl (step lag) f

/-- A node has a record under a name. -/
def holds (f : Fleet n) (x : String) (i : Fin n) : Bool := ((f.views i).cluster.nodes.get? x).isSome

/-- The nodes that take up a name in an event. -/
def adopting (lag : Span) (x : String) (f : Fleet n) (e : Event n) : List (Fin n) :=
  (List.finRange n).filter fun i => !f.holds x i && (f.step lag e).holds x i

/-- The nodes that take up a name in a run, as often as they do. -/
def adopters (lag : Span) (x : String) : Fleet n → List (Event n) → List (Fin n)
  | _, [] => []
  | f, e :: es => f.adopting lag x e ++ adopters lag x (f.step lag e) es

/-- No node holds a peer as valid, and none names it in a reply. -/
def Forgets (f : Fleet n) (x : String) (t : Instant) : Prop :=
  ∀ i, (f.views i).isValid x t = false ∧
    ∀ claimed token peers, ((f.views i).cluster.heartbeat claimed token t).2 = .ok peers →
      ∀ peer ∈ peers, peer.name ≠ x

/-- A merge takes one reply away at most, and its reader takes it up if it is not too late. -/
lemma step_merge_eq (f : Fleet n) (lag : Span) (place : ℕ) (now : Instant) :
    ∃ letters, letters ⊆ f.letters ∧
      (f.step lag (.merge place now) = { f with letters } ∨
        ∃ letter ∈ f.letters, now ≤ letter.sent + lag ∧
          f.step lag (.merge place now) = ({ f with letters } : Fleet n).setView letter.reader
            ((f.views letter.reader).mergePeers letter.peers now).1) := by
  cases hplace : f.letters[place]? with
  | none => exact ⟨f.letters, List.Subset.refl _, .inl (by simp [step, hplace])⟩
  | some letter =>
    refine ⟨f.letters.eraseIdx place, List.eraseIdx_subset, ?_⟩
    by_cases hlag : now ≤ letter.sent + lag
    · exact .inr ⟨letter, List.mem_of_getElem? hplace, hlag, by simp [step, hplace, hlag]⟩
    · exact .inl (by simp [step, hplace, hlag])

/-! ### A peer that fades away -/

/-- What nodes that never were the peer `x` know of it is no later than `s`, and the replies that name
it were given before this expired. -/
structure Fading (f : Fleet n) (x : String) (s : Instant) : Prop where
  name_ne : ∀ i, (f.views i).this.name ≠ x
  silent : ∀ i, (f.views i).cluster.SilentAbout x s
  sent_lt : ∀ letter ∈ f.letters, ∀ peer ∈ letter.peers, peer.name = x →
    letter.sent < s + (heartbeatTimeout : Int)

namespace Fading

variable {f : Fleet n} (h : f.Fading x s)

include h

lemma mono (hs : s ≤ s') : f.Fading x s' where
  name_ne := h.name_ne
  silent i := (h.silent i).mono hs
  sent_lt letter hletter peer hpeer hname :=
    (h.sent_lt letter hletter peer hpeer hname).trans_le (Int.add_le_add_right hs _)

/-- It suffices to look at the node whose view changes. -/
lemma setView {i : Fin n} {v : PeerView} (hthis : v.this = (f.views i).this)
    (hv : v.cluster.SilentAbout x s) : (f.setView i v).Fading x s := by
  refine ⟨fun j => ?_, fun j => ?_, h.sent_lt⟩
  · simp only [Fleet.setView, Function.update_apply]
    split_ifs with hj
    · rw [hthis]
      exact h.name_ne i
    · exact h.name_ne j
  · simp only [Fleet.setView, Function.update_apply]
    split_ifs with hj
    · exact hv
    · exact h.silent j

/-- A name that fades is forgotten once the timeout has passed. -/
lemma forgets (ht : s + (heartbeatTimeout : Int) ≤ t) : f.Forgets x t := by
  intro i
  constructor
  · rw [PeerView.isValid, Option.any_eq_false]
    intro node hget
    simp [(h.silent i x node hget (.inl rfl)).isValidAt_eq_false ht]
  · intro claimed token peers hok
    exact (h.silent i).name_ne_of_heartbeat hok ht

/-- A node that asks hears no signal of a name that fades. -/
lemma step_ask (lag : Span) (asker replier : Fin n) (token : String) (now : Instant) :
    (f.step lag (.ask asker replier token now)).Fading x s := by
  have hreplier := h.setView (i := replier) (v := { f.views replier with
    cluster := ((f.views replier).cluster.heartbeat (f.views asker).this token now).1 }) rfl
    ((h.silent replier).heartbeat (h.name_ne asker) token now)
  simp only [step]
  split
  · rename_i peers hok
    refine ⟨hreplier.name_ne, hreplier.silent, fun letter hletter peer hpeer hname => ?_⟩
    rcases List.mem_append.1 hletter with hletter | hletter
    · exact h.sent_lt letter hletter peer hpeer hname
    · obtain rfl := List.mem_singleton.1 hletter
      by_contra hlate
      exact (h.silent replier).name_ne_of_heartbeat hok (Int.not_lt.1 hlate) peer hpeer hname
  · exact hreplier

lemma step_evict (lag : Span) (i : Fin n) (now : Instant) :
    (f.step lag (.evict i now)).Fading x s :=
  h.setView rfl ((h.silent i).evict now)

/-- A contact that fails is no signal. -/
lemma step_miss (lag : Span) (i : Fin n) (name : String) (now : Instant) :
    (f.step lag (.miss i name now)).Fading x s := by
  refine h.setView rfl fun key node hget hx => ?_
  simp only [PeerView.updateSide, Roster.get?_update] at hget
  split_ifs at hget
  · obtain ⟨known, hknown, rfl⟩ := Option.map_eq_some_iff.1 hget
    exact (h.silent i key known hknown hx).failed now
  · exact h.silent i key node hget hx

/-- What is taken up from a reply is younger than the reply by the lag at most, so the afterlife of a peer
grows by the timeout and the lag for each node that takes it up. -/
lemma step_merge (lag : Span) (place : ℕ) (now : Instant) :
    (f.step lag (.merge place now)).Fading x
      (s + ((f.adopting lag x (.merge place now)).length * (heartbeatTimeout + lag) : ℕ)) := by
  set k := (f.adopting lag x (.merge place now)).length with hk
  have hs : s ≤ s + (k * (heartbeatTimeout + lag) : ℕ) :=
    Int.le_add_of_nonneg_right (Int.natCast_nonneg _)
  obtain ⟨letters, hletters, hstep⟩ := f.step_merge_eq lag place now
  have hrest : ({ f with letters } : Fleet n).Fading x (s + (k * (heartbeatTimeout + lag) : ℕ)) :=
    mono ⟨h.name_ne, h.silent, fun letter hletter => h.sent_lt letter (hletters hletter)⟩ hs
  rcases hstep with hstep | ⟨letter, hletter, hlag, hstep⟩
  · rw [hstep]
    exact hrest
  · rw [hstep]
    refine hrest.setView (PeerView.this_mergePeers _ _ _) fun key node hget hx => ?_
    rcases PeerView.get?_mergePeers hget with hold | ⟨hnone, peer, hpeer, rfl, rfl⟩
    · exact (h.silent letter.reader key node hold hx).mono hs
    · -- the record is new, so the reader took it up and the bound has moved
      have hname : peer.name = x := hx.elim id id
      have hreader : letter.reader ∈ f.adopting lag x (.merge place now) := by
        rw [adopting, hstep, ← hname]
        simp [holds, hnone, hget, Fleet.setView]
      have hpos : 1 ≤ k := List.length_pos_of_mem hreader
      have hsent := h.sent_lt letter hletter peer hpeer hname
      refine .new peer (hlag.trans ?_)
      calc letter.sent + (lag : Int) ≤ s + (heartbeatTimeout : Int) + lag :=
            Int.add_le_add_right hsent.le _
        _ = s + ((heartbeatTimeout + lag : ℕ) : Int) := by rw [Int.natCast_add, Int.add_assoc]
        _ ≤ s + ((k * (heartbeatTimeout + lag) : ℕ) : Int) :=
            Int.add_le_add_left (Int.ofNat_le.2 (Nat.le_mul_of_pos_left _ hpos)) s

/-- Every event prolongs the afterlife of a peer by so much for each node that takes it up. -/
lemma step (lag : Span) (e : Event n) :
    (f.step lag e).Fading x (s + ((f.adopting lag x e).length * (heartbeatTimeout + lag) : ℕ)) := by
  have hs : s ≤ s + ((f.adopting lag x e).length * (heartbeatTimeout + lag) : ℕ) :=
    Int.le_add_of_nonneg_right (Int.natCast_nonneg _)
  cases e with
  | ask asker replier token now => exact (h.step_ask lag asker replier token now).mono hs
  | merge place now => exact h.step_merge lag place now
  | evict i now => exact (h.step_evict lag i now).mono hs
  | miss i name now => exact (h.step_miss lag i name now).mono hs

/-- Every time a name is adopted, its end is put off by one timeout and the lag. -/
lemma run (lag : Span) (es : List (Event n)) :
    (f.run lag es).Fading x (s + ((f.adopters lag x es).length * (heartbeatTimeout + lag) : ℕ)) := by
  induction es generalizing f s with
  | nil => exact h.mono (by simp [adopters])
  | cons e es ih =>
    have hrest := ih (h.step lag e)
    rw [Int.add_assoc, ← Int.natCast_add, ← Nat.add_mul, ← List.length_append] at hrest
    exact hrest

end Fading

/-! ### The afterlife of a peer -/

/-- How long a dead peer may be remembered if it is taken up `k` times after its death. -/
def afterlife (lag : Span) (k : ℕ) : Span := heartbeatTimeout + k * (heartbeatTimeout + lag)

lemma afterlife_mono (lag : Span) {k m : ℕ} (h : k ≤ m) : afterlife lag k ≤ afterlife lag m :=
  Nat.add_le_add_left (Nat.mul_le_mul_right _ h) _

/-- A name that was last heard of at some time is gone after one timeout, and one more with the lag for
each time that it was adopted. -/
lemma forgets_of_silentAbout {views : Fin n → PeerView} (hname : ∀ i, (views i).this.name ≠ x)
    (hsilent : ∀ i, (views i).cluster.SilentAbout x s) (es : List (Event n))
    (ht : s + (afterlife lag ((start views).adopters lag x es).length : Int) ≤ t) :
    ((start views).run lag es).Forgets x t := by
  have hstart : (start views).Fading x s := ⟨hname, hsilent, by simp [start]⟩
  refine (hstart.run lag es).forgets ?_
  rwa [afterlife, Int.natCast_add, Int.add_comm (heartbeatTimeout : Int), ← Int.add_assoc] at ht

/-- A dead peer may be remembered for one timeout, and for one more, with the lag of a reply, each time
that a node takes it up again.  If every node does so once, this is `n + 1` timeouts for `n` nodes; and `n`
if those that do had no record of it when it died. -/
theorem forgets_of_adopters (lag : Span) {views : Fin n → PeerView} {died : Instant}
    (hname : ∀ i, (views i).this.name ≠ x)
    (hsilent : ∀ i, (views i).cluster.SilentAbout x died) (es : List (Event n)) :
    let adopters := (start views).adopters lag x es
    let later := (start views).run lag es
    (∀ t, died + (afterlife lag adopters.length : Int) ≤ t → later.Forgets x t) ∧
      (adopters.Nodup → ∀ t, died + (afterlife lag n : Int) ≤ t → later.Forgets x t) ∧
      (adopters.Nodup → (∀ i ∈ adopters, ¬ (views i).cluster.Knows x) →
        ∀ t, died + (afterlife lag (n - 1) : Int) ≤ t → later.Forgets x t) := by
  intro adopters later
  have hbound {k : ℕ} (hk : adopters.length ≤ k) {t : Instant}
      (ht : died + (afterlife lag k : Int) ≤ t) : later.Forgets x t :=
    forgets_of_silentAbout hname hsilent es
      ((Int.add_le_add_left (Int.ofNat_le.2 (afterlife_mono lag hk)) died).trans ht)
  refine ⟨fun t => hbound le_rfl, fun hnodup t => hbound ?_, fun hnodup hnew t ht => ?_⟩
  · simpa using hnodup.length_le_card
  · by_cases hknown : ∃ i, (views i).cluster.Knows x
    · obtain ⟨i, hi⟩ := hknown
      have hnodup' : (i :: adopters).Nodup := List.nodup_cons.2 ⟨fun hmem => hnew i hmem hi, hnodup⟩
      have hlength : adopters.length + 1 ≤ n := by simpa using hnodup'.length_le_card
      exact hbound (Nat.le_sub_one_of_lt hlength) ht
    · -- what nobody knows has been silent for as long as one likes
      have hsilent' : ∀ i, (views i).cluster.SilentAbout x (t - (afterlife lag adopters.length : Int)) :=
        fun i key node hget hx => absurd ⟨i, key, node, hget, hx⟩ hknown
      exact forgets_of_silentAbout hname hsilent' es (Int.sub_add_cancel t _).le

/-! ### A relay -/

/-- Two nodes that have just registered with each other.  The first one has heard of `x`. -/
def relayViews : Fin 2 → PeerView
  | 0 => { PeerView.new ⟨"a", "10.0.0.1", 5000, "prod"⟩ "secret" with
      cluster.nodes :=
        (Roster.empty.insert "b" (.registered ⟨"b", "10.0.0.2", 5000, "prod"⟩ "for b" 0)).insert
          "x" (.new ⟨"x", "10.0.0.3", 5000, "prod"⟩ 0) }
  | 1 => { PeerView.new ⟨"b", "10.0.0.2", 5000, "prod"⟩ "secret" with
      cluster.nodes := Roster.empty.insert "a" (.registered ⟨"a", "10.0.0.1", 5000, "prod"⟩ "for a" 0) }

/-- The second node learns of `x` from the first one just before this drops it, and gives it back just
before it would drop it itself.  No reply is under way for any time. -/
def relay : List (Event 2) :=
  [.ask 1 0 "for b" (Span.seconds 59), .merge 0 (Span.seconds 59), .ask 0 1 "for a" (Span.seconds 59),
    .merge 0 (Span.seconds 59), .evict 0 (Span.seconds 60), .ask 0 1 "for a" (Span.seconds 118),
    .merge 0 (Span.seconds 118), .ask 1 0 "for b" (Span.seconds 118)]

lemma name_relayViews_ne (i : Fin 2) : (relayViews i).this.name ≠ "x" := by
  revert i
  decide

lemma silentAbout_relayViews (i : Fin 2) : (relayViews i).cluster.SilentAbout "x" 0 := by
  intro key node hget hx
  match i with
  | 0 =>
    simp only [relayViews, Roster.get?_insert, Roster.get?_empty] at hget
    split_ifs at hget with hkey hb
    · cases hget
      exact .new _ le_rfl
    · cases hget
      subst hb
      exact absurd hx (by decide)
  | 1 =>
    simp only [relayViews, Roster.get?_insert, Roster.get?_empty] at hget
    split_ifs at hget with ha
    cases hget
    subst ha
    exact absurd hx (by decide)

/-- The relay is over after one timeout for each of the two nodes and one more. -/
theorem forgets_of_adopters_relay :
    (∀ i, (relayViews i).this.name ≠ "x") ∧ (∀ i, (relayViews i).cluster.SilentAbout "x" 0) ∧
      ((start relayViews).adopters 0 "x" relay).Nodup ∧
      ((start relayViews).run 0 relay).Forgets "x" (Span.seconds 180) := by
  have hnodup : ((start relayViews).adopters 0 "x" relay).Nodup := by decide +kernel
  obtain ⟨-, hforgets, -⟩ :=
    forgets_of_adopters 0 name_relayViews_ne silentAbout_relayViews relay
  exact ⟨name_relayViews_ne, silentAbout_relayViews, hnodup,
    hforgets hnodup (Span.seconds 180) (by decide)⟩

/-- One timeout for each of two nodes is not enough, though each of them takes up the dead peer once.  And
if they go on like this, the second one takes it up once more. -/
theorem relay_outlives :
    let later := (start relayViews).run 0 relay
    let x : Identity := ⟨"x", "10.0.0.3", 5000, "prod"⟩
    let b : Identity := ⟨"b", "10.0.0.2", 5000, "prod"⟩
    (∀ i, (relayViews i).this.name ≠ x.name) ∧ (∀ i, (relayViews i).cluster.SilentAbout x.name 0) ∧
      (start relayViews).adopters 0 x.name relay = [1, 0] ∧
      (later.views 0).isValid x.name (Span.seconds (60 * 2)) = true ∧
      ((later.views 0).cluster.heartbeat b "for b" (Span.seconds (60 * 2))).2.toOption = some [x] ∧
      later.adopters 0 x.name [.evict 1 (Span.seconds 119), .ask 1 0 "for b" (Span.seconds 177),
        .merge 1 (Span.seconds 177)] = [1] := by
  intro later x b
  refine ⟨name_relayViews_ne, silentAbout_relayViews, ?_, ?_, ?_, ?_⟩
  · decide +kernel
  · decide +kernel
  · decide +kernel
  · decide +kernel

end Fleet

end Flotilla
