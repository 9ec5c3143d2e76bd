import Flotilla.Proofs.Cluster.Agreement
import Flotilla.Proofs.EndNode.Edits
import Flotilla.Proofs.EndNode.Upkeep

/-!
# Peers that register while they are added

A peer may register just when an administrator adds it.  The edit looks at the record first and stores one
of its own only if there is none of that identity; so does the registration, but it looks again before it
stores.  The edit does not: a token that is issued between its two steps is lost.
-/

namespace Flotilla

/-- An edit that has been recorded and a registration, which take turns on a cluster. -/
structure Encounter where
  cluster : Cluster
  stage : Stage
  call : Cluster.Call

namespace Encounter

/-- Who is next. -/
inductive Move where
  /-- The edit takes a step. -/
  | edit (stamp : Instant)
  /-- The registration takes a step; the token that it may have to issue comes with it. -/
  | register (fresh : String)

/-- One move; the registration goes by the time at which it began. -/
def step (now : Instant) (s : Encounter) : Move → Encounter
  | .edit stamp =>
    let (nodes, stage) := s.stage.step stamp s.cluster.nodes
    { s with cluster.nodes := nodes, stage }
  | .register fresh =>
    let (cluster, call) := s.call.turn fresh now s.cluster
    { s with cluster, call }

/-- Some moves, one after the other. -/
def run (now : Instant) (s : Encounter) (moves : List Move) : Encounter := moves.foldl (step now) s

/-- The addition of an entry has been recorded, and the peer that the entry is about comes to register with
the credentials of the cluster. -/
def start (c : Cluster) (this : Identity) (entry : StaticNode) : Encounter :=
  ⟨c, (StaticEdit.add entry).stage this, { claim := ⟨entry.identity this, c.token, this.name⟩ }⟩

lemma run_snoc (now : Instant) (s : Encounter) (moves : List Move) (move : Move) :
    s.run now (moves ++ [move]) = (s.run now moves).step now move := by
  simp [run]

/-! ### Lost tokens -/

/-- The edit has looked and is about to store a record of its own, and the registration has looked and is
about to store one, too, as the name is free. -/
def IsTied (s : Encounter) : Prop :=
  (∃ identity, s.stage = .placing identity) ∧ s.call.attempt = .enrolling ∧
    s.cluster.nodes.get? s.call.claim.identity.name = none

/-- The registration stores its record between the two steps of the edit. -/
def Clashes (now : Instant) (s : Encounter) (moves : List Move) : Prop :=
  ∃ before fresh after, moves = before ++ .register fresh :: after ∧ (s.run now before).IsTied

lemma not_clashes_nil (now : Instant) (s : Encounter) : ¬ s.Clashes now [] := by
  rintro ⟨before, fresh, after, hmoves, -⟩
  simp at hmoves

/-- A clash is a registration that meets the tie, in the last step or before. -/
lemma clashes_snoc (s : Encounter) (now : Instant) (moves : List Move) (move : Move) :
    s.Clashes now (moves ++ [move]) ↔
      s.Clashes now moves ∨ (∃ fresh, move = .register fresh) ∧ (s.run now moves).IsTied := by
  constructor
  · rintro ⟨before, fresh, after, hmoves, htied⟩
    obtain ⟨rfl, rfl, -⟩ | ⟨later, rfl, -⟩ := append_cons_eq_snoc_iff.1 hmoves.symm
    · exact .inr ⟨⟨fresh, rfl⟩, htied⟩
    · exact .inl ⟨before, fresh, later, rfl, htied⟩
  · rintro (⟨before, fresh, after, rfl, htied⟩ | ⟨⟨fresh, rfl⟩, htied⟩)
    · exact ⟨before, fresh, after ++ [move], by simp, htied⟩
    · exact ⟨moves, fresh, [], rfl, htied⟩

/-! ### How the two stand -/

/-- How an edit and a registration of one peer stand: what is left of the edit, the record under the name
of the peer, how far the registration has come, and whether there was a clash. -/
inductive Standing (peer : Identity) (now : Instant) (clashed : Prop) :
    Stage → Option Node → Cluster.Attempt → Prop where
  | looking {known : Option Node} {attempt : Cluster.Attempt} (hclash : ¬ clashed)
      (hattempt : ∀ r, attempt ≠ .finished (.ok r)) :
      Standing peer now clashed (.promoting peer) known attempt
  | placing {known : Option Node} {attempt : Cluster.Attempt} (hclash : ¬ clashed)
      (hattempt : ∀ r, attempt ≠ .finished (.ok r))
      (hknown : ∀ node, known = some node → node.identity ≠ peer) :
      Standing peer now clashed (.placing peer) known attempt
  | placed {node : Node} {attempt : Cluster.Attempt} (hclash : ¬ clashed)
      (hattempt : ∀ r, attempt ≠ .finished (.ok r)) (hid : node.identity = peer)
      (hlocal : node.isLocal = true) : Standing peer now clashed .done (some node) attempt
  | issued {stage : Stage} {node : Node} {r : Registration} (hclash : ¬ clashed)
      (hstage : stage = .promoting peer ∨ stage = .done ∧ node.isLocal = true)
      (hid : node.identity = peer) (htoken : node.inToken = r.token) (hne : r.token ≠ "")
      (hheard : node.heardAt = some now) :
      Standing peer now clashed stage (some node) (.finished (.ok r))
  | tied {node : Node} {r : Registration} (hclash : clashed) :
      Standing peer now clashed (.placing peer) (some node) (.finished (.ok r))
  | lost {stamp : Instant} {r : Registration} (hclash : clashed) :
      Standing peer now clashed .done (some (.fixed peer stamp)) (.finished (.ok r))

namespace Standing

variable {peer : Identity} {now : Instant} {clashed clashed' : Prop} {stage stage' : Stage}
  {known after : Option Node} {attempt : Cluster.Attempt}

lemma isAbout (h : Standing peer now clashed stage known attempt) : stage.IsAbout peer.name := by
  cases h with
  | looking | placing | tied => rfl
  | placed | lost => trivial
  | issued _ hstage =>
    rcases hstage with rfl | ⟨rfl, -⟩
    · rfl
    · trivial

/-- Nothing is lost yet, and the edit takes a step. -/
lemma advance {stamp : Instant} (h : Standing peer now clashed stage known attempt)
    (hadvance : stage.Advance stamp known after stage') :
    Standing peer now clashed stage' after attempt := by
  cases h with
  | looking hclash hattempt =>
    cases hadvance with
    | promoted hid => exact .placed hclash hattempt hid rfl
    | differs hid => exact .placing hclash hattempt hid
  | placing hclash hattempt hknown =>
    cases hadvance with
    | placed => exact .placed hclash hattempt rfl rfl
  | placed hclash hattempt hid hlocal =>
    cases hadvance with
    | idle => exact .placed hclash hattempt hid hlocal
  | @issued _ node r hclash hstage hid htoken hne hheard =>
    rcases hstage with rfl | ⟨rfl, hlocal⟩
    · cases hadvance with
      | promoted => exact .issued hclash (.inr ⟨rfl, rfl⟩) hid htoken hne hheard
      | differs hother => exact absurd hid (hother node rfl)
    · cases hadvance with
      | idle => exact .issued hclash (.inr ⟨rfl, hlocal⟩) hid htoken hne hheard
  | tied hclash =>
    cases hadvance with
    | placed => exact .lost hclash
  | lost hclash =>
    cases hadvance with
    | idle => exact .lost hclash

/-- There is no clash before the registration has been accepted. -/
lemma not_clashed (h : Standing peer now clashed stage known attempt)
    (hattempt : ∀ r, attempt ≠ .finished (.ok r)) : ¬ clashed := by
  cases h with
  | looking hclash | placing hclash | placed hclash => exact hclash
  | issued | tied | lost => exact absurd rfl (hattempt _)

/-- The registration goes on, or it is refused. -/
lemma pending {attempt' : Cluster.Attempt} (h : Standing peer now clashed stage known attempt)
    (hattempt : ∀ r, attempt ≠ .finished (.ok r)) (hclash : ¬ clashed')
    (hattempt' : ∀ r, attempt' ≠ .finished (.ok r)) :
    Standing peer now clashed' stage known attempt' := by
  cases h with
  | looking => exact .looking hclash hattempt'
  | placing _ _ hknown => exact .placing hclash hattempt' hknown
  | placed _ _ hid hlocal => exact .placed hclash hattempt' hid hlocal
  | issued | tied | lost => exact absurd rfl (hattempt _)

/-- The registration finds the record of its peer and issues the token in it, or puts a new one there. -/
lemma renewed {node : Node} {token : String} {already : Bool}
    (h : Standing peer now clashed stage (some node) attempt)
    (hattempt : ∀ r, attempt ≠ .finished (.ok r)) (hclash : ¬ clashed') (hid : node.identity = peer)
    (hne : token ≠ "") :
    Standing peer now clashed' stage (some (Cluster.heard now { node with inToken := token }))
      (.finished (.ok ⟨token, already⟩)) := by
  cases h with
  | looking => exact .issued hclash (.inl rfl) hid rfl hne rfl
  | placing _ _ hknown => exact absurd hid (hknown node rfl)
  | placed _ _ _ hlocal => exact .issued hclash (.inr ⟨rfl, hlocal⟩) hid rfl hne rfl
  | issued | tied | lost => exact absurd rfl (hattempt _)

/-- The registration takes a step.  There is a clash if it stores a record while the edit is about to. -/
lemma turn {fresh : String} {call : Cluster.Call} (h : Standing peer now clashed stage known call.attempt)
    (hpeer : call.claim.identity = peer) (hfresh : fresh ≠ "")
    (hclash : clashed' ↔ clashed ∨
      (∃ identity, stage = .placing identity) ∧ call.attempt = .enrolling ∧ known = none)
    (hturn : Cluster.Turn fresh now call known after attempt) :
    Standing peer now clashed' stage after attempt := by
  have hnone (hattempt : ∀ r, call.attempt ≠ .finished (.ok r))
      (htied : call.attempt ≠ .enrolling ∨ known ≠ none) : ¬ clashed' := by
    rw [hclash]
    rintro (hclashed | ⟨-, henrolling, hfree⟩)
    · exact h.not_clashed hattempt hclashed
    · exact htied.elim (· henrolling) (· hfree)
  cases hturn with
  | screened ha | missed ha | refused ha =>
    have hattempt : ∀ r, call.attempt ≠ .finished (.ok r) := by simp [ha]
    exact h.pending hattempt (hnone hattempt (.inl (by simp [ha]))) nofun
  | overtaken ha =>
    have hattempt : ∀ r, call.attempt ≠ .finished (.ok r) := by simp [ha]
    exact h.pending hattempt (hnone hattempt (.inr nofun)) nofun
  | @renewed node ha hid hlive =>
    have hattempt : ∀ r, call.attempt ≠ .finished (.ok r) := by simp [ha]
    have htoken : node.inToken ≠ "" := by
      intro hempty
      simp [Node.registeredLocalAt, hempty] at hlive
    exact h.renewed hattempt (hnone hattempt (.inl (by simp [ha]))) (hid.trans hpeer) htoken
  | replaced ha hid =>
    have hattempt : ∀ r, call.attempt ≠ .finished (.ok r) := by simp [ha]
    exact h.renewed hattempt (hnone hattempt (.inl (by simp [ha]))) (hid.trans hpeer) hfresh
  | enrolled ha =>
    subst hpeer
    rw [ha] at h hclash
    cases h with
    | looking hclashed =>
      refine .issued ?_ (.inl rfl) rfl rfl hfresh rfl
      rintro hclash'
      rcases hclash.1 hclash' with hclash' | ⟨⟨identity, hstage⟩, -⟩
      · exact hclashed hclash'
      · cases hstage
    | placing => exact .tied (hclash.2 (.inr ⟨⟨_, rfl⟩, rfl, rfl⟩))
  | @idle known result ha =>
    rw [ha] at h hclash
    have hsame : clashed' = clashed := propext (hclash.trans (or_iff_left (by rintro ⟨-, ⟨⟩, -⟩)))
    rw [hsame]
    exact h

end Standing

/-! ### Runs -/

section Runs

variable {c : Cluster} {this : Identity} {entry : StaticNode} {now : Instant}

/-- A move leaves the credentials of the cluster and the claim alone. -/
lemma static_step (s : Encounter) (now : Instant) (move : Move) :
    (s.step now move).cluster.name = s.cluster.name ∧
      (s.step now move).cluster.token = s.cluster.token ∧
      (s.step now move).call.claim = s.call.claim := by
  cases move with
  | edit stamp => exact ⟨rfl, rfl, rfl⟩
  | register fresh =>
    obtain ⟨nodes, quarantine, hturn⟩ := Cluster.exists_turn_eq s.call fresh now s.cluster
    have hcluster : (s.step now (.register fresh)).cluster = (s.call.turn fresh now s.cluster).1 := rfl
    rw [hcluster, hturn]
    exact ⟨rfl, rfl, rfl⟩

/-- Neither the credentials nor the claim change in an encounter. -/
lemma static_run (s : Encounter) (now : Instant) (moves : List Move) :
    (s.run now moves).cluster.name = s.cluster.name ∧
      (s.run now moves).cluster.token = s.cluster.token ∧
      (s.run now moves).call.claim = s.call.claim := by
  induction moves using List.reverseRecOn with
  | nil => exact ⟨rfl, rfl, rfl⟩
  | append_singleton moves move ih =>
    obtain ⟨hname, htoken, hclaim⟩ := (s.run now moves).static_step now move
    rw [run_snoc]
    exact ⟨hname.trans ih.1, htoken.trans ih.2.1, hclaim.trans ih.2.2⟩

/-- The peer of an entry that is accepted may register. -/
lemma fits_run (hvalid : entry.fault? this = none) (hname : c.name = this.cluster) (now : Instant)
    (moves : List Move) :
    ((start c this entry).run now moves).call.claim.Fits ((start c this entry).run now moves).cluster
      entry.name := by
  obtain ⟨hname', htoken, hclaim⟩ := (start c this entry).static_run now moves
  have hpeer := StaticNode.isPeerOf_of_fault? hvalid
  refine ⟨?_, ?_, ?_, ?_, ?_⟩
  · rw [hclaim]
    rfl
  · rw [hclaim]
    exact hpeer.hasAddress
  · rw [hclaim]
    exact hpeer.name_ne
  · rw [hclaim, hname']
    exact hname.symm
  · rw [hclaim, htoken]
    rfl

/-- Throughout a run the edit and the registration stand in one of the ways that `Standing` lists. -/
lemma standing_run (hvalid : entry.fault? this = none) (hname : c.name = this.cluster) (now : Instant)
    {moves : List Move} (hfresh : ∀ fresh, .register fresh ∈ moves → fresh ≠ "") :
    Standing (entry.identity this) now ((start c this entry).Clashes now moves)
      ((start c this entry).run now moves).stage
      (((start c this entry).run now moves).cluster.nodes.get? entry.name)
      ((start c this entry).run now moves).call.attempt := by
  induction moves using List.reverseRecOn with
  | nil => exact .looking (not_clashes_nil now _) nofun
  | append_singleton moves move ih =>
    have hbefore := ih fun fresh hmem => hfresh fresh (List.mem_append_left _ hmem)
    have hfits := fits_run hvalid hname now moves
    have hclaim := ((start c this entry).static_run now moves).2.2
    have hclash := (start c this entry).clashes_snoc now moves move
    rw [run_snoc]
    generalize (start c this entry).run now moves = s at hbefore hfits hclaim hclash
    cases move with
    | edit stamp =>
      have hsame : (start c this entry).Clashes now (moves ++ [.edit stamp]) =
          (start c this entry).Clashes now moves :=
        propext (hclash.trans (or_iff_left (by rintro ⟨⟨fresh, ⟨⟩⟩, -⟩)))
      rw [hsame]
      exact hbefore.advance (Stage.advance_step stamp s.cluster.nodes hbefore.isAbout)
    | register fresh =>
      refine hbefore.turn (congrArg Cluster.Claim.identity hclaim)
        (hfresh fresh (List.mem_append_right _ List.mem_cons_self)) ?_
        (Cluster.turn_of_fits hfits fresh now)
      rw [hclash, IsTied, hfits.name_eq]
      simp

/-- Once an entry has been added and its peer has registered, in whatever order they took their steps, the
record is a local one of this peer.  Unless there was a clash the peer has the token of the record, which
authenticates it for 60 s; in a clash the edit has overwritten the record in which the token was issued, and
the peer is turned down. -/
theorem local_of_added_and_registered (hvalid : entry.fault? this = none) (hname : c.name = this.cluster)
    {moves : List Move} (hfresh : ∀ fresh, .register fresh ∈ moves → fresh ≠ "") {r : Registration}
    (hadded : ((start c this entry).run now moves).stage = .done)
    (hregistered : ((start c this entry).run now moves).call.attempt = .finished (.ok r)) :
    let s := (start c this entry).run now moves
    ∃ node, s.cluster.nodes.get? entry.name = some node ∧ node.isLocal = true ∧
      node.identity = entry.identity this ∧
      (¬ (start c this entry).Clashes now moves ∧ node.inToken = r.token ∧
          (∀ t, now.isRecent t = true → (s.cluster.authenticate (entry.identity this) r.token t).2 =
            .ok (Cluster.heard t node)) ∨
        (start c this entry).Clashes now moves ∧ node.inToken = "" ∧
          ∀ t, (s.cluster.authenticate (entry.identity this) r.token t).2 =
            .error (.wrongToken entry.name)) := by
  intro s
  have hstanding := standing_run hvalid hname now hfresh
  have hs : (start c this entry).run now moves = s := rfl
  rw [hs] at hadded hregistered hstanding
  rw [hadded, hregistered] at hstanding
  generalize hget : s.cluster.nodes.get? entry.name = known at hstanding
  cases hstanding with
  | placed _ hattempt => exact absurd rfl (hattempt r)
  | @issued _ node _ hclash hstage hid htoken hne hheard =>
    obtain ⟨⟨⟩⟩ | ⟨-, hlocal⟩ := hstage
    refine ⟨node, rfl, hlocal, hid, .inl ⟨hclash, htoken, fun t ht => ?_⟩⟩
    refine Cluster.authenticate_eq_ok_iff.2 ⟨node, hget, ?_, rfl⟩
    exact Cluster.credentialFault?_eq_none_iff.2 ⟨hid, hne, htoken, by simpa [hheard] using ht⟩
  | @lost stamp _ hclash =>
    refine ⟨_, rfl, rfl, rfl, .inr ⟨hclash, rfl, fun t => ?_⟩⟩
    have hfault : Cluster.credentialFault? (.fixed (entry.identity this) stamp) (entry.identity this) r.token
        t = some (.wrongToken entry.name) := by
      simp [Cluster.credentialFault?, Node.fixed, Node.new, StaticNode.identity]
    rw [Cluster.authenticate_of_fault hget hfault]

/-- The peer stores its record before the edit looks for it, so that the edit makes this record local. -/
theorem local_of_added_and_registered_before :
    let this : Identity := ⟨"a", "10.0.0.1", 5000, "prod"⟩
    let x : StaticNode := ⟨"x", "10.0.0.2", 5000⟩
    let moves : List Move := [.register "s", .register "s", .register "t", .edit 1]
    let s := (start (.new "prod" "secret") this x).run 0 moves
    let later : Instant := Span.seconds 59
    x.fault? this = none ∧ (∀ fresh, .register fresh ∈ moves → fresh ≠ "") ∧ s.stage = .done ∧
      s.call.attempt = .finished (.ok ⟨"t", false⟩) ∧
      ∃ node, s.cluster.nodes.get? "x" = some node ∧ node.isLocal = true ∧
        (s.cluster.authenticate (x.identity this) "t" later).2 = .ok (Cluster.heard later node) := by
  intro this x moves s later
  have hvalid : x.fault? this = none := by decide +kernel
  have hfresh : ∀ fresh, .register fresh ∈ moves → fresh ≠ "" := by simp [moves]
  have hadded : s.stage = .done := by decide +kernel
  have hregistered : s.call.attempt = .finished (.ok ⟨"t", false⟩) := rfl
  have hstored : (s.cluster.nodes.get? "x").map (·.inToken) = some "t" := by decide +kernel
  obtain ⟨node, hget, hlocal, -, ⟨-, -, haccepted⟩ | ⟨-, hempty, -⟩⟩ :=
    local_of_added_and_registered (c := .new "prod" "secret") hvalid rfl hfresh hadded hregistered
  · exact ⟨hvalid, hfresh, hadded, hregistered, node, hget, hlocal, haccepted later (by decide +kernel)⟩
  · rw [show s.cluster.nodes.get? "x" = some node from hget, Option.map_some, hempty] at hstored
    exact absurd hstored (by decide)

end Runs

/-- The edit looks for a record of `x` in vain, then `x` registers and is given a token, and then the edit
stores its record: the token is gone, and `x` is turned down. -/
theorem lost_token_of_clash :
    let this : Identity := ⟨"a", "10.0.0.1", 5000, "prod"⟩
    let x : StaticNode := ⟨"x", "10.0.0.2", 5000⟩
    let s := (start (.new "prod" "secret") this x).run 0
      [.edit 1, .register "t", .register "t", .register "t", .edit 1]
    s.stage = .done ∧ s.call.attempt.result? = some (.ok ⟨"t", false⟩) ∧
      (s.cluster.nodes.get? "x").map (·.inToken) = some "" ∧
      (s.cluster.authenticate (x.identity this) "t" 1).2 = .error (.wrongToken "x") := by
  decide +kernel

end Encounter

end Flotilla
