import Flotilla.Proofs.Cluster.Events
import Flotilla.Proofs.Settings.Intervals

/-!
# Missed beats

How long a cluster counts on a peer that has fallen silent.  The heartbeat interval may be as long as a third
of the heartbeat timeout, and a signal counts for less than the timeout.  So a peer that misses three beats
is still counted on when the third one is due, unless the interval is a third of the timeout: then the third
beat is due at the very instant at which the peer is given up.
-/

namespace Flotilla

open Rpc (CallError)

/-! ### Signals -/

namespace Node

variable {node : Node} {t u : Instant}

/-- One of the signals on which the peer is counted. -/
def IsSignal (node : Node) (signal : Instant) : Prop :=
  signal = node.createdAt ∨ node.heardAt = some signal ∨ node.reportedAt = some signal

/-- There is no later signal. -/
structure LastSignal (node : Node) (t : Instant) : Prop where
  isSignal : node.IsSignal t
  le : ∀ signal, node.IsSignal signal → signal ≤ t

/-- A signal is recent for less than a minute. -/
lemma isRecent_iff : t.isRecent u = true ↔ u < t + (heartbeatTimeout : Int) := by
  rw [Instant.isRecent, decide_eq_true_iff]
  exact ⟨Int.lt_add_of_sub_left_lt, Int.sub_left_lt_of_lt_add⟩

/-- A record is valid within a minute of one of its signals. -/
lemma isValidAt_iff :
    node.isValidAt u = true ↔ ∃ signal, node.IsSignal signal ∧ u < signal + (heartbeatTimeout : Int) := by
  simp only [isValidAt, Bool.or_eq_true, Option.any_eq_true, isRecent_iff, IsSignal, or_and_right, exists_or,
    exists_eq_left, or_assoc]

/-- The last signal decides. -/
lemma LastSignal.isValidAt_iff (h : node.LastSignal t) :
    node.isValidAt u = true ↔ u < t + (heartbeatTimeout : Int) := by
  rw [Node.isValidAt_iff]
  constructor
  · rintro ⟨signal, hsignal, hu⟩
    exact Int.lt_of_lt_of_le hu (Int.add_le_add_right (h.le signal hsignal) _)
  · intro hu
    exact ⟨t, h.isSignal, hu⟩

end Node

namespace Cluster

/-! ### Silence -/

/-- An entry shows a signal of the peer with a name: the peer proved itself, or was reached. -/
def IsSignalOf (name : String) (entry : Entry) : Prop :=
  (∃ now, proof? name entry = some now) ∨ ∃ news now, entry.1 = .settle name (.ok news) now

/-- An event writes to the record under a name directly. -/
def Event.Edits (name : String) : Event → Prop
  | .store key _ | .erase key | .replace key _ => key = name
  | _ => False

variable {c : Cluster} {name : String} {node : Node} {t u : Instant} {es : List Event}

/-- Without a signal of the peer nothing but our own token for it changes in a record that is not local, as
long as it survives. -/
lemma Change.silent {entry : Entry} {after : Option Node} (h : Change c name entry after) {out : String}
    (hget : c.nodes.get? name = some { node with outToken := out }) (hlocal : node.isLocal = false)
    (hsignal : ¬ IsSignalOf name entry) (hedits : ¬ entry.1.Edits name)
    (hevict : ∀ now, entry.1 = .evict now → node.isValidAt now = true) :
    ∃ out', after = some { node with outToken := out' } := by
  cases h with
  | @admitted claimed token server fresh now r hname => exact absurd (.inl ⟨now, if_pos hname⟩) hsignal
  | @authenticated claimed token now known hname => exact absurd (.inl ⟨now, if_pos hname⟩) hsignal
  | @greeted claimed token now known peers hname => exact absurd (.inl ⟨now, if_pos hname⟩) hsignal
  | @dropped now names known hmem hknown hstale =>
    cases hget.symm.trans hknown
    rw [Node.survivesAt, Bool.or_eq_false_iff] at hstale
    exact absurd (hevict now rfl) (Bool.eq_false_iff.1 hstale.1)
  | learned hname hnone =>
    rw [hget] at hnone
    cases hnone
  | settled outcome now =>
    cases outcome with
    | ok news => exact absurd (.inr ⟨news, now, rfl⟩) hsignal
    | error e =>
      rw [hget]
      exact ⟨"", by simp [Contact.settled, Contact.failed, hlocal]⟩
  | stored | erased | replaced => exact absurd rfl hedits
  | kept => exact ⟨out, hget⟩

/-- In a silent run a record stays as it is, apart from the token that its peer gave. -/
lemma exists_get?_run_of_silent (out : String) (hget : c.nodes.get? name = some { node with outToken := out })
    (hlocal : node.isLocal = false)
    (hes : ∀ entry ∈ c.history es, ¬ IsSignalOf name entry ∧ ¬ entry.1.Edits name)
    (hevict : ∀ now, .evict now ∈ es → node.isValidAt now = true) :
    ∃ out', (c.run es).nodes.get? name = some { node with outToken := out' } := by
  induction es generalizing c out with
  | nil => exact ⟨out, hget⟩
  | cons e es ih =>
    rw [history_cons, List.forall_mem_cons] at hes
    obtain ⟨out', hstep⟩ := (change_step c name e).silent hget hlocal hes.1.1 hes.1.2
      fun now he => hevict now (he ▸ List.mem_cons_self)
    exact ih out' hstep hes.2 fun now hnow => hevict now (List.mem_cons_of_mem e hnow)

/-! ### Being counted on, and being given up -/

/-- The peer is valid, an eviction leaves it alone and, if its last signal was a proof, its token is
accepted. -/
structure CountsOn (c : Cluster) (name : String) (t u : Instant) (node : Node) : Prop where
  get?_eq : c.nodes.get? name = some node
  valid : node.isValidAt u = true
  kept : name ∉ (c.evictStale u).2
  accepted : node.name = name → node.heardAt = some t → node.inToken ≠ "" →
    ∃ n, (c.authenticate node.identity node.inToken u).2 = .ok n

/-- The peer is not valid, an eviction drops it and, if its last signal was a proof, its token is refused. -/
structure GivesUp (c : Cluster) (name : String) (t u : Instant) (node : Node) : Prop where
  get?_eq : c.nodes.get? name = some node
  invalid : node.isValidAt u = false
  dropped : name ∈ (c.evictStale u).2
  refused : node.name = name → node.heardAt = some t → node.inToken ≠ "" →
    (c.authenticate node.identity node.inToken u).2 = .error (.tokenTimeout name)

/-- Within a minute of the last signal a peer is counted on. -/
lemma countsOn_of_lt (hget : c.nodes.get? name = some node) (hlast : node.LastSignal t)
    (hu : u < t + (heartbeatTimeout : Int)) : c.CountsOn name t u node where
  get?_eq := hget
  valid := hlast.isValidAt_iff.2 hu
  kept := by
    rw [mem_evictStale]
    rintro ⟨known, hknown, hstale⟩
    cases hget.symm.trans hknown
    simp [Node.survivesAt, hlast.isValidAt_iff.2 hu] at hstale
  accepted hname hheard htoken := by
    subst hname
    refine ⟨heard u node, authenticate_eq_ok_iff.2 ⟨node, hget, ?_, rfl⟩⟩
    refine credentialFault?_eq_none_iff.2 ⟨rfl, htoken, rfl, fun s hs => ?_⟩
    cases hheard.symm.trans hs
    exact Node.isRecent_iff.2 hu

/-- A minute after the last signal a peer is given up. -/
lemma givesUp_of_le (hget : c.nodes.get? name = some node) (hlocal : node.isLocal = false)
    (hlast : node.LastSignal t) (hu : t + (heartbeatTimeout : Int) ≤ u) : c.GivesUp name t u node where
  get?_eq := hget
  invalid := Bool.eq_false_iff.2 (mt hlast.isValidAt_iff.1 (Int.not_lt.2 hu))
  dropped := by
    have hinvalid : node.isValidAt u = false := Bool.eq_false_iff.2 (mt hlast.isValidAt_iff.1 (Int.not_lt.2 hu))
    exact mem_evictStale.2 ⟨node, hget, by rw [Node.survivesAt, hinvalid, hlocal]; rfl⟩
  refused hname hheard htoken := by
    subst hname
    have hold : t.isRecent u = false := Bool.eq_false_iff.2 (mt Node.isRecent_iff.1 (Int.not_lt.2 hu))
    have hfault : credentialFault? node node.identity node.inToken u = some (.tokenTimeout node.name) := by
      simp [credentialFault?, htoken, hheard, hold, Node.name]
    rw [authenticate_of_fault hget hfault]

/-! ### Accepted intervals -/

/-- The third beat that is missed is due at the very instant at which the timeout has passed. -/
def IsLimit (i : Intervals) (t u : Instant) : Prop :=
  i.heartbeat = .seconds 20 ∧ u = t + 3 * (i.heartbeat : Int)

/-- Up to the third beat that is missed, the timeout has passed at the limit only. -/
lemma lt_iff_not_isLimit {i : Intervals} (hi : i.check = .ok ()) (hu : u ≤ t + 3 * (i.heartbeat : Int)) :
    u < t + (heartbeatTimeout : Int) ↔ ¬ IsLimit i t u := by
  have hroom : (i.heartbeat : Int) * 3 ≤ 60000000000 := by exact_mod_cast (Intervals.check_eq_ok_iff.1 hi).2.1
  have hlimit : IsLimit i t u ↔ (i.heartbeat : Int) = 20000000000 ∧ u = t + 3 * (i.heartbeat : Int) :=
    and_congr_left' Int.ofNat_inj.symm
  have harith (h t u : Int) (hroom : h * 3 ≤ 60000000000) (hu : u ≤ t + 3 * h) :
      u < t + 60000000000 ↔ ¬ (h = 20000000000 ∧ u = t + 3 * h) := by omega
  rw [hlimit]
  exact harith i.heartbeat t u hroom hu

/-- With accepted intervals a peer that misses three beats after its last signal is counted on up to and
including the instant at which the third one is due, unless the interval is 20 s: then it is counted on
before that instant and given up at it.  Meanwhile anything may happen to the cluster but a signal of the
peer and a direct edit of its record; at that instant of the exception an eviction would drop it. -/
theorem countsOn_of_missedBeats {i : Intervals} (hi : i.check = .ok ())
    (hget : c.nodes.get? name = some node) (hlocal : node.isLocal = false) (hlast : node.LastSignal t)
    (hes : ∀ entry ∈ c.history es, ¬ IsSignalOf name entry ∧ ¬ entry.1.Edits name)
    (hevict : ∀ now, .evict now ∈ es → now ≤ t + 3 * (i.heartbeat : Int) ∧ ¬ IsLimit i t now)
    (hu : u ≤ t + 3 * (i.heartbeat : Int)) :
    ∃ node', node' = { node with outToken := node'.outToken } ∧
      (¬ IsLimit i t u → (c.run es).CountsOn name t u node') ∧
      (IsLimit i t u → (c.run es).GivesUp name t u node') := by
  have hvalid : ∀ now, .evict now ∈ es → node.isValidAt now = true := by
    intro now hnow
    obtain ⟨hle, hlimit⟩ := hevict now hnow
    exact hlast.isValidAt_iff.2 ((lt_iff_not_isLimit hi hle).2 hlimit)
  obtain ⟨out, hrun⟩ := exists_get?_run_of_silent node.outToken hget hlocal hes hvalid
  have hlast' : { node with outToken := out }.LastSignal t := ⟨hlast.isSignal, hlast.le⟩
  refine ⟨{ node with outToken := out }, rfl, fun hlimit => ?_, fun hlimit => ?_⟩
  · exact countsOn_of_lt hrun hlast' ((lt_iff_not_isLimit hi hu).2 hlimit)
  · exact givesUp_of_le hrun hlocal hlast' (Int.not_lt.1 (mt (lt_iff_not_isLimit hi hu).1 (not_not.2 hlimit)))

lemma lastSignal_registered (who : Identity) (token : String) (t : Instant) :
    (Node.registered who token t).LastSignal t := by
  refine ⟨.inl rfl, ?_⟩
  rintro signal (rfl | hheard | hreported)
  · exact Int.le_refl _
  · cases hheard
    exact Int.le_refl _
  · cases hreported

/-- A peer that registers and falls silent outlasts a failed contact and two evictions, the last one just
before the third beat at the longest interval is due, and is then refused at that beat. -/
theorem countsOn_of_missedBeats_longest :
    let x : Identity := ⟨"x", "10.0.0.2", 5000, "prod"⟩
    let c := (new "prod" "secret").run [.register x "secret" "server" "tau" 0]
    let es : List Event := [.evict (Span.seconds 15), .settle "x" (.error (.timeout (Span.seconds 3)))
      (Span.seconds 30), .evict (Span.seconds 60 - 1)]
    (∃ n, ((c.run es).authenticate x "tau" (Span.seconds 60 - 1)).2 = .ok n) ∧
      ((c.run es).authenticate x "tau" (Span.seconds 60)).2 = .error (.tokenTimeout "x") := by
  intro x c es
  let i : Intervals := ⟨.seconds 20, .seconds 15, .seconds 3⟩
  have htoken : "tau" ≠ "" := by decide
  have hi : i.check = .ok () := by decide +kernel
  have hget : c.nodes.get? "x" = some (.registered x "tau" 0) := by decide
  have hes : ∀ entry ∈ c.history es, ¬ IsSignalOf "x" entry ∧ ¬ entry.1.Edits "x" := by
    simp [es, IsSignalOf, proof?, Event.Edits, step]
  have hevict : ∀ now, .evict now ∈ es → now ≤ 0 + 3 * (i.heartbeat : Int) ∧ ¬ IsLimit i 0 now := by
    intro now hnow
    simp only [es, List.mem_cons, Event.evict.injEq, reduceCtorEq, List.not_mem_nil, or_false, false_or] at hnow
    rcases hnow with rfl | rfl <;> exact ⟨by decide, fun h => absurd h.2 (by decide)⟩
  constructor
  · obtain ⟨node, hnode, hcounts, -⟩ := countsOn_of_missedBeats (u := Span.seconds 60 - 1) hi hget rfl
      (lastSignal_registered x "tau" 0) hes hevict (by decide)
    have hlimit : ¬ IsLimit i 0 (Span.seconds 60 - 1) := fun h => absurd h.2 (by decide)
    rw [hnode] at hcounts
    exact (hcounts hlimit).accepted rfl rfl htoken
  · obtain ⟨node, hnode, -, hgives⟩ := countsOn_of_missedBeats (u := Span.seconds 60) hi hget rfl
      (lastSignal_registered x "tau" 0) hes hevict (by decide)
    rw [hnode] at hgives
    exact (hgives ⟨rfl, by decide⟩).refused rfl rfl htoken

/-- Intervals with 20 s between heartbeats are accepted.  But a peer whose last signal is a registration and
which misses the three beats after it is not valid, is dropped by an eviction and is refused when the third
one is due. -/
theorem givenUp_at_third_beat :
    let i : Intervals := ⟨.seconds 20, .seconds 15, .seconds 3⟩
    let x : Identity := ⟨"x", "10.0.0.2", 5000, "prod"⟩
    let c := (new "prod" "secret").run [.register x "secret" "server" "tau" 0]
    let third : Instant := 3 * (i.heartbeat : Int)
    i.check = .ok () ∧ ∃ node, c.nodes.get? "x" = some node ∧ node.isLocal = false ∧ node.LastSignal 0 ∧
      node.heardAt = some 0 ∧ node.isValidAt third = false ∧ "x" ∈ (c.evictStale third).2 ∧
      (c.authenticate x "tau" third).2 = .error (.tokenTimeout "x") := by
  intro i x c third
  refine ⟨by decide +kernel, .registered x "tau" 0, by decide, rfl, lastSignal_registered x "tau" 0, rfl,
    by decide, by decide, ?_⟩
  have hget : c.nodes.get? "x" = some (.registered x "tau" 0) := by decide
  have hfault : credentialFault? (.registered x "tau" 0) x "tau" third = some (.tokenTimeout "x") := by decide
  rw [authenticate_of_fault hget hfault]

end Cluster

end Flotilla
