import Mathlib.Data.List.Induction
import Flotilla.Proofs.Cluster.Records

/-!
# Registrations that take turns agree

Any number of registrations of one name may be under way at once, and each looks up the record and
stores a new one in separate steps.  Whatever the order of the steps, the record that is stored in the
end speaks for all of them: who it is about was accepted with its token, everybody else was refused, and
at most one of them was given a token that is new.
-/

namespace Flotilla.Cluster

variable {c : Cluster} {claim : Claim} {name fresh : String} {now : Instant}

/-! ### Claims -/

/-- A claim to a name that passes the screening of a cluster. -/
structure Claim.Fits (claim : Claim) (c : Cluster) (name : String) : Prop where
  name_eq : claim.identity.name = name
  hasAddress : claim.identity.HasAddress
  name_ne : claim.identity.name ≠ claim.server
  cluster_eq : claim.identity.cluster = c.name
  token_eq : claim.token = c.token

/-- Claims that agree in all that is screened pass at every instant. -/
lemma Claim.Fits.screen_eq_ok (h : claim.Fits c name) (now : Instant) :
    (c.screen claim.identity claim.token claim.server now).2 = .ok () :=
  screen_eq_ok_iff.2 ⟨h.hasAddress, h.name_ne, h.cluster_eq, h.token_eq⟩

/-! ### One turn -/

/-- What a turn of a registration makes of the record under its name, and how far it comes. -/
inductive Turn (fresh : String) (now : Instant) (call : Call) :
    Option Node → Option Node → Attempt → Prop where
  | screened {known : Option Node} (h : call.attempt = .arriving) :
      Turn fresh now call known known .renewing
  | missed (h : call.attempt = .renewing) : Turn fresh now call none none .enrolling
  | refused {node : Node} (h : call.attempt = .renewing) (hid : node.identity ≠ call.claim.identity) :
      Turn fresh now call (some node) (some node)
        (.finished (.error (.nameCollision call.claim.identity.name)))
  | renewed {node : Node} (h : call.attempt = .renewing) (hid : node.identity = call.claim.identity)
      (hlive : node.registeredLocalAt now = true) :
      Turn fresh now call (some node) (some (heard now node)) (.finished (.ok ⟨node.inToken, true⟩))
  | replaced {node : Node} (h : call.attempt = .renewing) (hid : node.identity = call.claim.identity)
      (hstale : node.registeredLocalAt now = false) :
      Turn fresh now call (some node) (some (heard now { node with inToken := fresh }))
        (.finished (.ok ⟨fresh, false⟩))
  | enrolled (h : call.attempt = .enrolling) :
      Turn fresh now call none (some (.registered call.claim.identity fresh now))
        (.finished (.ok ⟨fresh, false⟩))
  | overtaken {node : Node} (h : call.attempt = .enrolling) :
      Turn fresh now call (some node) (some node) .renewing
  | idle {known : Option Node} {result : Except RegisterError Registration}
      (h : call.attempt = .finished result) : Turn fresh now call known known (.finished result)

/-- A turn of a registration that fits is one of those that `Turn` lists. -/
lemma turn_of_fits {call : Call} (hfits : call.claim.Fits c name) (fresh : String) (now : Instant) :
    Turn fresh now call (c.nodes.get? name) ((call.turn fresh now c).1.nodes.get? name)
      (call.turn fresh now c).2.attempt := by
  obtain ⟨claim, attempt, rounds⟩ := call
  have hscreen := hfits.screen_eq_ok now
  have hnodes := nodes_screen c claim.identity claim.token claim.server now
  have hname := hfits.name_eq
  simp only at hscreen hnodes hname
  subst hname
  cases attempt with
  | arriving =>
    cases hs : c.screen claim.identity claim.token claim.server now with
    | mk c' verdict =>
      rw [hs] at hscreen hnodes
      simp only at hscreen hnodes
      subst hscreen
      simp only [Call.turn, Attempt.step, hs, hnodes]
      exact .screened rfl
  | renewing =>
    cases hget : c.nodes.get? claim.identity.name with
    | none =>
      simp only [Call.turn, Attempt.step, renew?_of_none hget, hget]
      exact .missed rfl
    | some node =>
      simp only [Call.turn, Attempt.step, renew?_of_known hget, Roster.get?_insert, if_true]
      by_cases hid : node.identity = claim.identity
      · cases hlive : node.registeredLocalAt now with
        | true =>
          rw [reregister_of_live hid hlive]
          exact .renewed rfl hid hlive
        | false =>
          rw [reregister_of_stale hid hlive]
          exact .replaced rfl hid hlive
      · rw [reregister_of_ne hid]
        exact .refused rfl hid
  | enrolling =>
    cases hget : c.nodes.get? claim.identity.name with
    | none =>
      simp only [Call.turn, Attempt.step, enroll?_of_none hget, Roster.get?_insert, if_true]
      exact .enrolled rfl
    | some node =>
      simp only [Call.turn, Attempt.step, enroll?_of_known hget, hget]
      exact .overtaken rfl
  | finished result => exact .idle rfl

/-- A turn leaves the credentials of the cluster alone. -/
lemma exists_turn_eq (call : Call) (fresh : String) (now : Instant) (c : Cluster) :
    ∃ nodes quarantine, (call.turn fresh now c).1 = { c with nodes, quarantine } := by
  obtain ⟨claim, attempt, rounds⟩ := call
  cases attempt with
  | arriving =>
    obtain ⟨quarantine, h⟩ := exists_screen_eq c claim.identity claim.token claim.server now
    refine ⟨c.nodes, quarantine, ?_⟩
    rw [← h]
    simp only [Call.turn, Attempt.step]
    split
    · rename_i hs
      rw [hs]
    · rename_i hs
      rw [hs]
  | renewing =>
    simp only [Call.turn, Attempt.step]
    split
    · exact ⟨_, c.quarantine, rfl⟩
    · exact ⟨c.nodes, c.quarantine, rfl⟩
  | enrolling =>
    simp only [Call.turn, Attempt.step]
    split
    · exact ⟨_, c.quarantine, rfl⟩
    · exact ⟨c.nodes, c.quarantine, rfl⟩
  | finished result => exact ⟨c.nodes, c.quarantine, rfl⟩

/-- Once there is a record, there is one after every turn. -/
lemma Turn.ne_none {call : Call} {known after : Option Node} {attempt : Attempt}
    (h : Turn fresh now call known after attempt) (hknown : known ≠ none) : after ≠ none := by
  cases h with
  | missed => exact absurd rfl hknown
  | screened | idle => exact hknown
  | _ => exact Option.some_ne_none _

/-! ### The pace of a registration -/

/-- How often a registration has looked up the record and how many turns it has had, by how far it has
come.  It looks up the record again only if there is one. -/
inductive Pace (known : Option Node) : Attempt → Nat → Nat → Prop where
  | arriving : Pace known .arriving 0 0
  | renewing : Pace known .renewing 0 1
  | enrolling : Pace known .enrolling 1 2
  | again (hknown : known ≠ none) : Pace known .renewing 1 3
  | finished {result : Except RegisterError Registration} {rounds turns : Nat} (h : rounds ≤ 2) :
      Pace known (.finished result) rounds turns

namespace Pace

variable {known after : Option Node} {call : Call} {attempt : Attempt} {rounds turns : Nat}

/-- An attempt that was in time stays so when the name becomes known. -/
lemma mono (h : Pace known attempt rounds turns) (hafter : known ≠ none → after ≠ none) :
    Pace after attempt rounds turns := by
  cases h with
  | arriving => exact .arriving
  | renewing => exact .renewing
  | enrolling => exact .enrolling
  | again hknown => exact .again (hafter hknown)
  | finished h => exact .finished h

/-- A turn keeps the pace. -/
lemma of_turn (h : Pace known call.attempt rounds turns)
    (hturn : Turn fresh now call known after attempt) :
    Pace after attempt (rounds + call.attempt.begins) (turns + 1) := by
  cases hturn with
  | screened ha =>
    rw [ha] at h ⊢
    cases h
    exact .renewing
  | missed ha =>
    rw [ha] at h ⊢
    cases h with
    | renewing => exact .enrolling
    | again hknown => exact absurd rfl hknown
  | refused ha | renewed ha | replaced ha =>
    rw [ha] at h ⊢
    cases h with
    | renewing => exact .finished (by decide)
    | again => exact .finished (by decide)
  | enrolled ha =>
    rw [ha] at h ⊢
    cases h
    exact .finished (by decide)
  | overtaken ha =>
    rw [ha] at h ⊢
    cases h
    exact .again (Option.some_ne_none _)
  | idle ha =>
    rw [ha] at h ⊢
    cases h with
    | finished h => exact .finished h

/-- The loop begins at most twice. -/
lemma rounds_le (h : Pace known attempt rounds turns) : rounds ≤ 2 := by
  cases h with
  | finished h => exact h
  | _ => decide

/-- Four turns are enough. -/
lemma finished_of_le (h : Pace known attempt rounds turns) (hturns : 4 ≤ turns) :
    attempt.result?.isSome := by
  cases h with
  | finished => rfl
  | _ => exact absurd hturns (by decide)

end Pace

/-! ### Agreement -/

/-- A result agrees with the record under the name: its node was accepted with its token, and everybody
else was refused. -/
inductive Agrees (node : Node) (claimed : Identity) : Except RegisterError Registration → Prop where
  | accepted (h : node.identity = claimed) (already : Bool) :
      Agrees node claimed (.ok ⟨node.inToken, already⟩)
  | refused (h : node.identity ≠ claimed) : Agrees node claimed (.error (.nameCollision claimed.name))

/-- A signal of the peer does not touch what was agreed on. -/
lemma Agrees.heard {node : Node} {claimed : Identity} {result : Except RegisterError Registration}
    (h : Agrees node claimed result) (now : Instant) :
    Agrees (Cluster.heard now node) claimed result := by
  cases h with
  | accepted h already =>
    have hid : (Cluster.heard now node).identity = claimed := h
    exact .accepted hid already
  | refused h => exact .refused h

/-- The registrations agree so far with the record under their name, and the record is live if it accepted
somebody, so that the next one is given its token again.  At most one was given a new token, and one was
if the record is new itself. -/
structure Agreement (now : Instant) (start known : Option Node) (calls : List Call) : Prop where
  agrees : ∀ call ∈ calls, ∀ result, call.attempt.result? = some result →
    ∃ node, known = some node ∧ Agrees node call.claim.identity result
  live : ∀ call ∈ calls, ∀ r, call.attempt.result? = some (.ok r) →
    ∀ node, known = some node → node.registeredLocalAt now = true
  fresh_le : calls.countP (·.attempt.isFresh) ≤ 1
  fresh_eq : start = none → known ≠ none → calls.countP (·.attempt.isFresh) = 1

/-- Only a registration that succeeded has issued a token. -/
lemma exists_of_isFresh {a : Attempt} (h : a.isFresh = true) : ∃ r, a.result? = some (.ok r) := by
  cases a with
  | finished result =>
    cases result with
    | error e => simp [Attempt.isFresh] at h
    | ok r => exact ⟨r, rfl⟩
  | _ => simp [Attempt.isFresh] at h

lemma isFresh_of_result?_eq_none {a : Attempt} (h : a.result? = none) : a.isFresh = false := by
  cases a with
  | finished result => cases h
  | _ => rfl

/-- A turn of a registration that was not given a new token yet counts if it is given one now. -/
lemma countP_isFresh_set {calls : List Call} {i : Nat} {call call' : Call} (hi : calls[i]? = some call)
    (hcall : call.attempt.isFresh = false) :
    (calls.set i call').countP (·.attempt.isFresh) =
      calls.countP (·.attempt.isFresh) + if call'.attempt.isFresh then 1 else 0 := by
  obtain ⟨hlt, rfl⟩ := List.getElem?_eq_some_iff.1 hi
  rw [List.countP_set hlt, hcall]
  simp

namespace Agreement

variable {start known after : Option Node} {calls : List Call} {i : Nat} {call call' : Call}

/-- Nothing is agreed on before the first step. -/
lemma of_start (c : Cluster) (name : String) (now : Instant) (claims : List Claim) :
    Agreement now (c.nodes.get? name) (c.nodes.get? name) (Race.start c claims).calls := by
  have harriving : ∀ call ∈ (Race.start c claims).calls, call.attempt = .arriving := by
    simp [Race.start]
  have hzero : (Race.start c claims).calls.countP (·.attempt.isFresh) = 0 := by
    refine List.countP_eq_zero.2 fun call hcall => ?_
    simp [harriving call hcall, Attempt.isFresh]
  refine ⟨?_, ?_, ?_, ?_⟩
  · intro call hcall result hresult
    simp [harriving call hcall, Attempt.result?] at hresult
  · intro call hcall r hresult
    simp [harriving call hcall, Attempt.result?] at hresult
  · simp [hzero]
  · intro hstart hknown
    exact absurd hstart hknown

/-- Nobody was given a new token while nobody was accepted. -/
lemma countP_eq_zero (hnone : ∀ call ∈ calls, ∀ r, call.attempt.result? ≠ some (.ok r)) :
    calls.countP (·.attempt.isFresh) = 0 := by
  refine List.countP_eq_zero.2 fun call hcall hfresh => ?_
  obtain ⟨r, hr⟩ := exists_of_isFresh hfresh
  exact hnone call hcall r hr

/-- A registration that goes on without a result does not disturb the others. -/
lemma set_pending (h : Agreement now start known calls) (hi : calls[i]? = some call)
    (hcall : call.attempt.result? = none) (hcall' : call'.attempt.result? = none) :
    Agreement now start known (calls.set i call') := by
  have hcount : (calls.set i call').countP (·.attempt.isFresh) =
      calls.countP (·.attempt.isFresh) := by
    rw [countP_isFresh_set hi (isFresh_of_result?_eq_none hcall), isFresh_of_result?_eq_none hcall']
    simp
  refine ⟨?_, ?_, ?_, ?_⟩
  · intro other hother result hresult
    rcases List.mem_or_eq_of_mem_set hother with hother | rfl
    · exact h.agrees other hother result hresult
    · rw [hcall'] at hresult
      cases hresult
  · intro other hother r hresult
    rcases List.mem_or_eq_of_mem_set hother with hother | rfl
    · exact h.live other hother r hresult
    · rw [hcall'] at hresult
      cases hresult
  · rw [hcount]
    exact h.fresh_le
  · rw [hcount]
    exact h.fresh_eq

/-- A registration comes to a result.  The others have to agree with the record that it leaves, and only
one of all may have been given a new token. -/
lemma set_finished {node : Node} {result : Except RegisterError Registration}
    (hi : calls[i]? = some call) (hcall : call.attempt.result? = none)
    (hcall' : call'.attempt = .finished result)
    (hresult : Agrees node call'.claim.identity result)
    (hothers : ∀ other ∈ calls, ∀ result, other.attempt.result? = some result →
      Agrees node other.claim.identity result)
    (hlive : ∀ r, result = .ok r → node.registeredLocalAt now = true)
    (hlives : ∀ other ∈ calls, ∀ r, other.attempt.result? = some (.ok r) →
      node.registeredLocalAt now = true)
    (hle : calls.countP (·.attempt.isFresh) + (if call'.attempt.isFresh then 1 else 0) ≤ 1)
    (heq : start = none →
      calls.countP (·.attempt.isFresh) + (if call'.attempt.isFresh then 1 else 0) = 1) :
    Agreement now start (some node) (calls.set i call') := by
  have hcount : (calls.set i call').countP (·.attempt.isFresh) =
      calls.countP (·.attempt.isFresh) + if call'.attempt.isFresh then 1 else 0 :=
    countP_isFresh_set hi (isFresh_of_result?_eq_none hcall)
  refine ⟨?_, ?_, ?_, ?_⟩
  · intro other hother res hres
    refine ⟨node, rfl, ?_⟩
    rcases List.mem_or_eq_of_mem_set hother with hother | rfl
    · exact hothers other hother res hres
    · rw [hcall'] at hres
      cases hres
      exact hresult
  · intro other hother r hres known hknown
    cases hknown
    rcases List.mem_or_eq_of_mem_set hother with hother | rfl
    · exact hlives other hother r hres
    · rw [hcall'] at hres
      cases hres
      exact hlive r rfl
  · rw [hcount]
    exact hle
  · intro hstart _
    rw [hcount]
    exact heq hstart

/-- All attempts that have finished agree with the record, once there is one. -/
lemma agrees_some {node : Node} (h : Agreement now start (some node) calls) :
    ∀ call ∈ calls, ∀ result, call.attempt.result? = some result →
      Agrees node call.claim.identity result := by
  intro call hcall result hresult
  obtain ⟨node, hknown, hagrees⟩ := h.agrees call hcall result hresult
  cases hknown
  exact hagrees

/-- While there is no record, nobody has a result. -/
lemma result?_none (h : Agreement now start none calls) :
    ∀ call ∈ calls, ∀ result, call.attempt.result? ≠ some result := by
  intro call hcall result hresult
  obtain ⟨node, hknown, -⟩ := h.agrees call hcall result hresult
  cases hknown

/-- While the record is stale, nobody has been accepted. -/
lemma result?_stale {node : Node} (h : Agreement now start (some node) calls)
    (hstale : node.registeredLocalAt now = false) :
    ∀ call ∈ calls, ∀ r, call.attempt.result? ≠ some (.ok r) := by
  intro call hcall r hresult
  rw [h.live call hcall r hresult node rfl] at hstale
  cases hstale

/-- The first registration that is accepted is given a new token, and the others agree as long as nobody
was accepted before. -/
lemma set_fresh {node : Node} {rounds : Nat} (hi : calls[i]? = some call)
    (hcall : call.attempt.result? = none) (hid : node.identity = call.claim.identity)
    (hlive : node.registeredLocalAt now = true)
    (hnobody : ∀ other ∈ calls, ∀ r, other.attempt.result? ≠ some (.ok r))
    (hothers : ∀ other ∈ calls, ∀ result, other.attempt.result? = some result →
      Agrees node other.claim.identity result) :
    Agreement now start (some node)
      (calls.set i { call with attempt := .finished (.ok ⟨node.inToken, false⟩), rounds }) := by
  have hzero : calls.countP (·.attempt.isFresh) = 0 := countP_eq_zero hnobody
  refine set_finished hi hcall rfl (.accepted hid false) hothers (fun _ _ => hlive) ?_ ?_ ?_
  · intro other hother r hr
    exact absurd hr (hnobody other hother r)
  · rw [hzero]
    exact Nat.le_refl 1
  · intro _
    rw [hzero]
    rfl

/-- A turn keeps the agreement. -/
lemma of_turn {attempt : Attempt} (h : Agreement now start known calls) (hfresh : fresh ≠ "")
    (hi : calls[i]? = some call) (hturn : Turn fresh now call known after attempt) :
    Agreement now start after
      (calls.set i { call with attempt, rounds := call.rounds + call.attempt.begins }) := by
  cases hturn with
  | screened hcall | missed hcall | overtaken hcall =>
    exact h.set_pending hi (by simp [hcall, Attempt.result?]) rfl
  | idle hcall =>
    obtain ⟨hlt, rfl⟩ := List.getElem?_eq_some_iff.1 hi
    rw [← hcall]
    have hbegins : calls[i].attempt.begins = 0 := by
      rw [hcall]
      rfl
    rw [hbegins, Nat.add_zero, List.set_getElem_self]
    exact h
  | @refused node hcall hid =>
    refine set_finished hi (by simp [hcall, Attempt.result?]) rfl (.refused hid) h.agrees_some ?_ ?_ ?_ ?_
    · intro r hr
      cases hr
    · intro other hother r hr
      exact h.live other hother r hr node rfl
    · exact h.fresh_le
    · intro hstart
      exact h.fresh_eq hstart (Option.some_ne_none _)
  | @renewed node hcall hid hlive =>
    have htoken : node.inToken ≠ "" := by
      intro hempty
      simp [Node.registeredLocalAt, hempty] at hlive
    have hlive' : (heard now node).registeredLocalAt now = true := registeredLocalAt_heard htoken now
    refine set_finished hi (by simp [hcall, Attempt.result?]) rfl
      ((Agrees.accepted hid true).heard now) ?_ (fun _ _ => hlive') (fun _ _ _ _ => hlive') ?_ ?_
    · intro other hother result hresult
      exact (h.agrees_some other hother result hresult).heard now
    · exact h.fresh_le
    · intro hstart
      exact h.fresh_eq hstart (Option.some_ne_none _)
  | @replaced node hcall hid hstale =>
    have hnobody := h.result?_stale hstale
    have hlive : (heard now { node with inToken := fresh }).registeredLocalAt now = true :=
      registeredLocalAt_heard hfresh now
    refine set_fresh hi (by simp [hcall, Attempt.result?]) hid hlive hnobody ?_
    intro other hother result hresult
    cases h.agrees_some other hother result hresult with
    | accepted => exact absurd hresult (hnobody other hother _)
    | refused hne => exact .refused hne
  | enrolled hcall =>
    have hnobody := h.result?_none
    have hlive : (heard now { Node.new call.claim.identity now with inToken := fresh }).registeredLocalAt
        now = true := registeredLocalAt_heard hfresh now
    refine set_fresh hi (by simp [hcall, Attempt.result?]) rfl hlive
      (fun other hother r => hnobody other hother (.ok r)) ?_
    intro other hother result hresult
    exact absurd hresult (hnobody other hother result)

end Agreement

/-! ### Races -/

namespace Race

variable {r : Race} {claims : List Claim}

lemma play_snoc (r : Race) (moves : List (Nat × String)) (move : Nat × String) :
    r.play now (moves ++ [move]) = (r.play now moves).turn now move := by
  simp [play]

lemma turn_of_none {i : Nat} (h : r.calls[i]? = none) : r.turn now (i, fresh) = r := by
  simp [turn, h]

lemma turn_of_some {i : Nat} {call : Call} (h : r.calls[i]? = some call) :
    r.turn now (i, fresh) =
      ⟨(call.turn fresh now r.cluster).1, r.calls.set i (call.turn fresh now r.cluster).2⟩ := by
  simp [turn, h]

/-- A turn leaves the credentials of the cluster and the claims alone. -/
lemma turn_static (r : Race) (now : Instant) (move : Nat × String) :
    (r.turn now move).cluster.name = r.cluster.name ∧
      (r.turn now move).cluster.token = r.cluster.token ∧
      (r.turn now move).calls.map (·.claim) = r.calls.map (·.claim) := by
  obtain ⟨i, fresh⟩ := move
  cases h : r.calls[i]? with
  | none => simp [turn_of_none h]
  | some call =>
    obtain ⟨nodes, quarantine, hturn⟩ := exists_turn_eq call fresh now r.cluster
    rw [turn_of_some h, hturn]
    refine ⟨rfl, rfl, ?_⟩
    obtain ⟨hlt, rfl⟩ := List.getElem?_eq_some_iff.1 h
    have hclaim : (r.calls[i].turn fresh now r.cluster).2.claim = r.calls[i].claim := rfl
    rw [List.map_set, hclaim, ← List.map_set, List.set_getElem_self]

/-- Neither the credentials of the cluster nor the claims change in a race. -/
lemma play_static (c : Cluster) (claims : List Claim) (now : Instant) (moves : List (Nat × String)) :
    ((start c claims).play now moves).cluster.name = c.name ∧
      ((start c claims).play now moves).cluster.token = c.token ∧
      ((start c claims).play now moves).calls.map (·.claim) = claims := by
  induction moves using List.reverseRecOn with
  | nil => simp [play, start, Function.comp_def]
  | append_singleton moves move ih =>
    obtain ⟨hname, htoken, hclaims⟩ := turn_static ((start c claims).play now moves) now move
    rw [play_snoc, hname, htoken, hclaims]
    exact ih

lemma length_play (c : Cluster) (claims : List Claim) (now : Instant) (moves : List (Nat × String)) :
    ((start c claims).play now moves).calls.length = claims.length := by
  simpa using congrArg List.length (play_static c claims now moves).2.2

/-- Claims that fit at the start of a race fit throughout. -/
lemma fits_play (hfits : ∀ claim ∈ claims, claim.Fits c name) (moves : List (Nat × String)) :
    ∀ call ∈ ((start c claims).play now moves).calls,
      call.claim.Fits ((start c claims).play now moves).cluster name := by
  intro call hcall
  obtain ⟨hname, htoken, hclaims⟩ := play_static c claims now moves
  have hmem : call.claim ∈ claims := by
    rw [← hclaims]
    exact List.mem_map_of_mem hcall
  have hclaim := hfits call.claim hmem
  exact ⟨hclaim.name_eq, hclaim.hasAddress, hclaim.name_ne, by rw [hclaim.cluster_eq, hname],
    by rw [hclaim.token_eq, htoken]⟩

/-- In every race the registrations agree so far. -/
lemma agreement_play (hfits : ∀ claim ∈ claims, claim.Fits c name) {moves : List (Nat × String)}
    (hmoves : ∀ move ∈ moves, move.2 ≠ "") :
    Agreement now (c.nodes.get? name) (((start c claims).play now moves).cluster.nodes.get? name)
      ((start c claims).play now moves).calls := by
  induction moves using List.reverseRecOn with
  | nil => exact .of_start c name now claims
  | append_singleton moves move ih =>
    obtain ⟨i, fresh⟩ := move
    have hbefore := ih fun move hmove => hmoves move (by simp [hmove])
    rw [play_snoc]
    cases hcall : ((start c claims).play now moves).calls[i]? with
    | none =>
      rw [turn_of_none hcall]
      exact hbefore
    | some call =>
      have hfit := fits_play hfits moves call (List.mem_of_getElem? hcall)
      rw [turn_of_some hcall]
      exact hbefore.of_turn (hmoves (i, fresh) (by simp)) hcall (turn_of_fits hfit fresh now)

/-- In every race each registration keeps the pace. -/
lemma pace_play (hfits : ∀ claim ∈ claims, claim.Fits c name) (moves : List (Nat × String)) :
    ∀ i call, ((start c claims).play now moves).calls[i]? = some call →
      Pace (((start c claims).play now moves).cluster.nodes.get? name) call.attempt call.rounds
        (moves.countP (·.1 == i)) := by
  induction moves using List.reverseRecOn with
  | nil =>
    intro i call hcall
    obtain ⟨claim, -, rfl⟩ := List.mem_map.1 (List.mem_of_getElem? hcall)
    exact .arriving
  | append_singleton moves move ih =>
    obtain ⟨j, fresh⟩ := move
    intro i call hcall
    rw [play_snoc] at hcall ⊢
    rw [List.countP_append, List.countP_singleton]
    cases hmover : ((start c claims).play now moves).calls[j]? with
    | none =>
      rw [turn_of_none hmover] at hcall ⊢
      have hne : j ≠ i := by
        rintro rfl
        rw [hmover] at hcall
        cases hcall
      simpa [hne] using ih i call hcall
    | some mover =>
      have hfit := fits_play hfits moves mover (List.mem_of_getElem? hmover)
      have hturn := turn_of_fits hfit fresh now
      rw [turn_of_some hmover] at hcall ⊢
      by_cases hji : j = i
      · subst hji
        rw [List.getElem?_set_self', hmover] at hcall
        cases hcall
        rw [beq_self_eq_true, if_pos rfl]
        exact (ih j mover hmover).of_turn hturn
      · rw [List.getElem?_set_ne hji] at hcall
        simpa [hji] using (ih i call hcall).mono hturn.ne_none

end Race

/-- A registration without a pause is a race of one. -/
theorem register_eq_race (c : Cluster) (claim : Claim) (fresh : String) (now : Instant) :
    let r := (Race.start c [claim]).play now [(0, fresh), (0, fresh), (0, fresh)]
    let result := c.register claim.identity claim.token claim.server fresh now
    r.cluster = result.1 ∧ r.calls.map (·.attempt.result?) = [some result.2] := by
  cases hs : c.screen claim.identity claim.token claim.server now with
  | mk c' verdict =>
    cases verdict with
    | error e =>
      simp [Race.play, Race.start, Race.turn, Call.turn, Attempt.step, Attempt.result?, register, hs]
    | ok u =>
      cases hget : c'.nodes.get? claim.identity.name with
      | none =>
        simp [Race.play, Race.start, Race.turn, Call.turn, Attempt.step, Attempt.result?, register, hs,
          renew?_of_none hget, enroll?_of_none hget]
      | some node =>
        simp [Race.play, Race.start, Race.turn, Call.turn, Attempt.step, Attempt.result?, register, hs,
          renew?_of_known hget]

/-- In a round of turns each registration has one. -/
lemma countP_mapIdx {claims : List (Identity × String)} {i : Nat} (hi : i < claims.length) :
    (claims.mapIdx fun j claim => (j, claim.2)).countP (·.1 == i) = 1 := by
  have hmovers : (claims.mapIdx fun j claim => (j, claim.2)).map (·.1) = List.range claims.length := by
    rw [List.mapIdx_eq_zipIdx_map, List.map_map, List.range_eq_range', ← List.zipIdx_map_snd]
    rfl
  calc (claims.mapIdx fun j claim => (j, claim.2)).countP (·.1 == i)
      = ((claims.mapIdx fun j claim => (j, claim.2)).map (·.1)).count i := by
        rw [List.count, List.countP_map]
        rfl
    _ = 1 := by rw [hmovers, List.count_range, if_pos hi]

/-- Registrations that take turns in order have all come to a result in the end. -/
theorem isSome_of_mem_registerTogether {claims : List (Identity × String)} {token server : String}
    (hfits : ∀ claim ∈ claims, (Claim.mk claim.1 token server).Fits c name) :
    ∀ result ∈ (c.registerTogether claims token server now).2, result.isSome := by
  intro result hresult
  obtain ⟨call, hcall, rfl⟩ := List.mem_map.1 hresult
  obtain ⟨i, hi⟩ := List.mem_iff_getElem?.1 hcall
  have hfits' : ∀ claim ∈ claims.map fun claim => Claim.mk claim.1 token server, claim.Fits c name := by
    intro claim hclaim
    obtain ⟨claim, hmem, rfl⟩ := List.mem_map.1 hclaim
    exact hfits claim hmem
  have hlt : i < claims.length := by
    obtain ⟨hlt, -⟩ := List.getElem?_eq_some_iff.1 hi
    rw [Race.length_play] at hlt
    simpa using hlt
  refine (Race.pace_play hfits' _ i call hi).finished_of_le ?_
  simp [countP_mapIdx hlt]

/-- Any number of registrations of one name that come at one instant, with the right credentials but
perhaps from different addresses, agree in whatever order they take turns.  Each has a result after four
turns, in at most two rounds.  Who has a result was accepted with the token of the record that is stored
by then if that is about it, and else refused for a collision of names.  At most one was given a new
token, and exactly one if the name was not taken before. -/
theorem agreement_of_race {claims : List Claim} (hfits : ∀ claim ∈ claims, claim.Fits c name)
    {moves : List (Nat × String)} (hmoves : ∀ move ∈ moves, move.2 ≠ "") :
    let r := (Race.start c claims).play now moves
    r.calls.map (·.claim) = claims ∧
      (∀ i call, r.calls[i]? = some call → call.rounds ≤ 2 ∧
        (4 ≤ moves.countP (·.1 == i) → call.attempt.result?.isSome)) ∧
      (∀ call ∈ r.calls, ∀ result, call.attempt.result? = some result →
        ∃ node, r.cluster.nodes.get? name = some node ∧ Agrees node call.claim.identity result) ∧
      r.calls.countP (·.attempt.isFresh) ≤ 1 ∧
      (c.nodes.get? name = none → (∃ call ∈ r.calls, call.attempt.result?.isSome) →
        r.calls.countP (·.attempt.isFresh) = 1) := by
  intro r
  have hagree : Agreement now (c.nodes.get? name) (r.cluster.nodes.get? name) r.calls :=
    Race.agreement_play hfits hmoves
  refine ⟨(Race.play_static c claims now moves).2.2, ?_, hagree.agrees, hagree.fresh_le, ?_⟩
  · intro i call hcall
    have hpace := Race.pace_play hfits moves i call hcall
    exact ⟨hpace.rounds_le, hpace.finished_of_le⟩
  · rintro hstart ⟨call, hcall, hsome⟩
    obtain ⟨result, hresult⟩ := Option.isSome_iff_exists.1 hsome
    obtain ⟨node, hget, -⟩ := hagree.agrees call hcall result hresult
    exact hagree.fresh_eq hstart (by rw [hget]; exact Option.some_ne_none node)

/-- Two registrations of `x` and one of another node with its name look the name up before anybody
stores it, and then the last one is the first to store. -/
theorem agreement_of_race_three :
    let x : Identity := ⟨"x", "10.0.0.2", 5000, "prod"⟩
    let thief : Identity := ⟨"x", "10.0.0.9", 5000, "prod"⟩
    let c := new "prod" "secret"
    let claims : List Claim := [x, thief, x].map fun who => ⟨who, "secret", "server"⟩
    let moves : List (Nat × String) :=
      [(0, "a"), (1, "b"), (2, "c"), (0, "d"), (1, "e"), (2, "f"), (2, "g"), (0, "h"), (1, "i"), (0, "j"),
        (1, "k"), (2, "l")]
    let r := (Race.start c claims).play (0 : Int) moves
    (∀ claim ∈ claims, claim.Fits c "x") ∧ (∀ move ∈ moves, move.2 ≠ "") ∧
      r.calls.map (·.attempt.isFresh) = [false, false, true] ∧
      (∀ call ∈ r.calls, ∃ result node, call.attempt.result? = some result ∧
        r.cluster.nodes.get? "x" = some node ∧ Agrees node call.claim.identity result) ∧
      r.calls.countP (·.attempt.isFresh) = 1 := by
  intro x thief c claims moves r
  have hfits : ∀ claim ∈ claims, claim.Fits c "x" := by
    intro claim hclaim
    obtain ⟨who, hwho, rfl⟩ := List.mem_map.1 hclaim
    have hname : who.name = "x" ∧ who.HasAddress ∧ who.cluster = c.name := by
      revert who
      decide
    exact ⟨hname.1, hname.2.1, by simp [hname.1], hname.2.2, rfl⟩
  have hmoves : ∀ move ∈ moves, move.2 ≠ "" := by decide
  have hfresh : r.calls.map (·.attempt.isFresh) = [false, false, true] := by decide +kernel
  have hdone : ∀ call ∈ r.calls, call.attempt.result?.isSome := by decide +kernel
  obtain ⟨-, -, hagrees, -, hone⟩ := agreement_of_race hfits hmoves
  -- from here on the race stays folded: comparing its parts would run it each time
  have hr : (Race.start c claims).play 0 moves = r := rfl
  rw [hr] at hagrees hone
  clear_value r
  refine ⟨hfits, hmoves, hfresh, fun call hcall => ?_, hone (by simp [c, new]) ?_⟩
  · obtain ⟨result, hresult⟩ := Option.isSome_iff_exists.1 (hdone call hcall)
    obtain ⟨node, hget, hnode⟩ := hagrees call hcall result hresult
    exact ⟨result, node, hresult, hget, hnode⟩
  · cases hcalls : r.calls with
    | nil => simp [hcalls] at hfresh
    | cons call calls => exact ⟨call, by simp, hdone call (by simp [hcalls])⟩

end Flotilla.Cluster
