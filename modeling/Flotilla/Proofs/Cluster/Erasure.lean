import Flotilla.Proofs.Cluster.Commands
import Flotilla.Proofs.EndNode.Records
import Flotilla.Proofs.Roster.Eviction

/-!
# Requests that are turned down leave no trace

Two clusters are alike if they have the same credentials and hold the same records; their quarantines
may differ.  To the same command they give the same report and stay alike, and a cluster that reports
an error stays like what it was.  So requests that were turned down may be erased from a history.
-/

namespace Flotilla

open Rpc (Reply Request)

namespace Cluster

variable {c c' : Cluster} {claimed : Identity} {token server fresh : String} {now : Instant}

/-- Nothing but the quarantine tells two clusters apart. -/
structure Alike (c c' : Cluster) : Prop where
  name_eq : c.name = c'.name
  token_eq : c.token = c'.token
  get?_eq : ∀ key, c.nodes.get? key = c'.nodes.get? key

lemma Alike.refl (c : Cluster) : c.Alike c := ⟨rfl, rfl, fun _ => rfl⟩

lemma Alike.symm (h : c.Alike c') : c'.Alike c :=
  ⟨h.name_eq.symm, h.token_eq.symm, fun key => (h.get?_eq key).symm⟩

lemma Alike.trans {c'' : Cluster} (h : c.Alike c') (h' : c'.Alike c'') : c.Alike c'' :=
  ⟨h.name_eq.trans h'.name_eq, h.token_eq.trans h'.token_eq,
    fun key => (h.get?_eq key).trans (h'.get?_eq key)⟩

/-! ### Errors -/

/-- A request that fails to authenticate touches at most the quarantine. -/
lemma alike_authenticate_of_error {e : AuthError} (h : (c.authenticate claimed token now).2 = .error e) :
    (c.authenticate claimed token now).1.Alike c :=
  ⟨name_authenticate .., token_authenticate .., get?_authenticate_of_error h⟩

/-- A refused heartbeat touches at most the quarantine. -/
lemma alike_heartbeat_of_error {e : HeartbeatError} (h : (c.heartbeat claimed token now).2 = .error e) :
    (c.heartbeat claimed token now).1.Alike c := by
  rw [heartbeat_fst]
  cases hauth : (c.authenticate claimed token now).2 with
  | error e => exact alike_authenticate_of_error hauth
  | ok n =>
    rw [heartbeat_of_ok hauth] at h
    cases h

/-- A refused registration touches at most the quarantine. -/
lemma alike_register_of_error {e : RegisterError}
    (h : (c.register claimed token server fresh now).2 = .error e) :
    (c.register claimed token server fresh now).1.Alike c :=
  ⟨name_register .., token_register .., get?_register_of_error h⟩

/-- A registration that is answered with an error leaves the node table alone. -/
lemma alike_answerRegister_of_code {r : Request}
    (h : (c.answerRegister server r fresh now).2.code ≠ ResponseCode.ok.number ∧
      (c.answerRegister server r fresh now).2.code ≠ ResponseCode.alreadyRegistered.number) :
    (c.answerRegister server r fresh now).1.Alike c := by
  cases hclaim : claimOf r with
  | error fault =>
    rw [answerRegister_of_error hclaim]
    exact .refl c
  | ok claim =>
    rw [answerRegister_of_ok hclaim] at h ⊢
    cases hr : (c.register claim.1 claim.2 server fresh now).2 with
    | error e => exact alike_register_of_error hr
    | ok registration =>
      rw [hr] at h
      cases hlive : registration.alreadyRegistered with
      | true => exact absurd (by simp [registrationReply, Registration.code, hlive]) h.2
      | false => exact absurd (by simp [registrationReply, Registration.code, hlive]) h.1

/-- A heartbeat that is answered with an error leaves the node table alone. -/
lemma alike_answerHeartbeat_of_code {r : Request}
    (h : (c.answerHeartbeat r now).2.code ≠ ResponseCode.ok.number) :
    (c.answerHeartbeat r now).1.Alike c := by
  cases hclaim : claimOf r with
  | error fault =>
    rw [answerHeartbeat_of_error hclaim]
    exact .refl c
  | ok claim =>
    rw [answerHeartbeat_of_ok hclaim] at h ⊢
    cases hr : (c.heartbeat claim.1 claim.2 now).2 with
    | error e => exact alike_heartbeat_of_error hr
    | ok peers =>
      rw [hr] at h
      exact absurd rfl h

/-- A command that is answered with an error leaves the records as they were. -/
lemma alike_obey_of_isError {command : Command} (h : (c.obey fresh command).2.isError = true) :
    (c.obey fresh command).1.Alike c := by
  cases command with
  | register claimed token server now =>
    cases hr : (c.register claimed token server fresh now).2 with
    | error e => exact alike_register_of_error hr
    | ok r => simp [obey, Report.isError, hr, Except.isOk, Except.toBool] at h
  | authenticate claimed token now =>
    cases hr : (c.authenticate claimed token now).2 with
    | error e => exact alike_authenticate_of_error hr
    | ok n => simp [obey, Report.isError, hr, Except.isOk, Except.toBool] at h
  | heartbeat claimed token now =>
    cases hr : (c.heartbeat claimed token now).2 with
    | error e => exact alike_heartbeat_of_error hr
    | ok peers => simp [obey, Report.isError, hr, Except.isOk, Except.toBool] at h
  | serveRegister server e now =>
    simp only [obey, registerContent] at h ⊢
    cases hopen : Request.open? c.token .register e with
    | error fault =>
      rw [serveRegister_of_sealed hopen]
      exact ⟨rfl, rfl, fun _ => rfl⟩
    | ok r =>
      simp only [hopen, Report.isError, Bool.and_eq_true, bne_iff_ne] at h
      rw [serveRegister_of_opened hopen]
      exact alike_answerRegister_of_code h
  | serveHeartbeat server e now =>
    simp only [obey, heartbeatContent] at h ⊢
    cases hopen : Request.open? c.token .heartbeat e with
    | error fault =>
      rw [serveHeartbeat_of_sealed hopen]
      exact .refl c
    | ok r =>
      simp only [hopen, Report.isError, Bool.and_eq_true, bne_iff_ne] at h
      rw [serveHeartbeat_of_opened hopen]
      exact alike_answerHeartbeat_of_code h.1
  | evict now => cases h
  | merge this center peers now => cases h

/-! ### Requests in the clear -/

namespace Alike

variable (h : c.Alike c')

include h

/-- Alike clusters have the same records. -/
lemma entries_eq : c.nodes.entries = c'.nodes.entries := Std.ExtTreeMap.ext_getElem? h.get?_eq

/-- The quarantine has no say in whether a request is accepted. -/
lemma snd_authenticate (claimed : Identity) (token : String) (now : Instant) :
    (c.authenticate claimed token now).2 = (c'.authenticate claimed token now).2 := by
  have hget := h.get?_eq claimed.name
  cases hnode : c.nodes.get? claimed.name with
  | none => rw [authenticate_of_none hnode, authenticate_of_none (hget ▸ hnode)]
  | some node =>
    cases hf : credentialFault? node claimed token now with
    | some e => rw [authenticate_of_fault hnode hf, authenticate_of_fault (hget ▸ hnode) hf]
    | none => rw [authenticate_of_no_fault hnode hf, authenticate_of_no_fault (hget ▸ hnode) hf]

lemma fst_authenticate (claimed : Identity) (token : String) (now : Instant) :
    (c.authenticate claimed token now).1.Alike (c'.authenticate claimed token now).1 := by
  have hsnd := h.snd_authenticate claimed token now
  cases hauth : (c.authenticate claimed token now).2 with
  | error e =>
    exact (alike_authenticate_of_error hauth).trans
      (h.trans (alike_authenticate_of_error (hsnd ▸ hauth)).symm)
  | ok n =>
    refine ⟨by simp [h.name_eq], by simp [h.token_eq], fun key => ?_⟩
    rw [get?_authenticate_of_ok hauth, get?_authenticate_of_ok (hsnd ▸ hauth), h.get?_eq]

lemma peersFor (name : String) (now : Instant) : c.peersFor name now = c'.peersFor name now := by
  simp only [Cluster.peersFor, Roster.select, Roster.nodes, h.entries_eq]

/-- The quarantine has no say in the reply to a heartbeat. -/
lemma snd_heartbeat (claimed : Identity) (token : String) (now : Instant) :
    (c.heartbeat claimed token now).2 = (c'.heartbeat claimed token now).2 := by
  have hsnd := h.snd_authenticate claimed token now
  cases hauth : (c.authenticate claimed token now).2 with
  | error e => rw [heartbeat_of_error hauth, heartbeat_of_error (hsnd ▸ hauth)]
  | ok n =>
    rw [heartbeat_of_ok hauth, heartbeat_of_ok (hsnd ▸ hauth),
      (h.fst_authenticate claimed token now).peersFor]

lemma fst_heartbeat (claimed : Identity) (token : String) (now : Instant) :
    (c.heartbeat claimed token now).1.Alike (c'.heartbeat claimed token now).1 := by
  rw [heartbeat_fst, heartbeat_fst]
  exact h.fst_authenticate claimed token now

lemma snd_screen (claimed : Identity) (token server : String) (now : Instant) :
    (c.screen claimed token server now).2 = (c'.screen claimed token server now).2 := by
  simp only [screen, belongs, h.name_eq, h.token_eq]
  split_ifs <;> rfl

/-- The quarantine has no say in the result of a registration. -/
lemma snd_register (claimed : Identity) (token server fresh : String) (now : Instant) :
    (c.register claimed token server fresh now).2 = (c'.register claimed token server fresh now).2 := by
  have hscreen := h.snd_screen claimed token server now
  have hget := h.get?_eq claimed.name
  cases hs : (c.screen claimed token server now).2 with
  | error e => rw [register_of_screen_error hs, register_of_screen_error (hscreen ▸ hs)]
  | ok u =>
    cases hnode : c.nodes.get? claimed.name with
    | none => rw [register_of_none hs hnode, register_of_none (hscreen ▸ hs) (hget ▸ hnode)]
    | some node => rw [register_of_known hs hnode, register_of_known (hscreen ▸ hs) (hget ▸ hnode)]

/-- A registration keeps alike clusters alike. -/
lemma fst_register (claimed : Identity) (token server fresh : String) (now : Instant) :
    (c.register claimed token server fresh now).1.Alike
      (c'.register claimed token server fresh now).1 := by
  have hsnd := h.snd_register claimed token server fresh now
  cases hr : (c.register claimed token server fresh now).2 with
  | error e =>
    exact (alike_register_of_error hr).trans (h.trans (alike_register_of_error (hsnd ▸ hr)).symm)
  | ok r =>
    refine ⟨by simp [h.name_eq], by simp [h.token_eq], fun key => ?_⟩
    rw [get?_register_of_ok hr, get?_register_of_ok (hsnd ▸ hr), h.get?_eq, h.get?_eq]

lemma snd_evictStale (now : Instant) : (c.evictStale now).2 = (c'.evictStale now).2 := by
  have hdropped (c : Cluster) : (c.evictStale now).2 = c.nodes.entries.namesFailing (·.survivesAt now) :=
    (c.nodes.filter_eq _).2
  rw [hdropped, hdropped, h.entries_eq]

lemma fst_evictStale (now : Instant) : (c.evictStale now).1.Alike (c'.evictStale now).1 :=
  ⟨h.name_eq, h.token_eq, fun key => by simp [h.get?_eq]⟩

/-! ### Sealed requests -/

/-- The quarantine has no say in the reply to a registration. -/
lemma snd_answerRegister (server : String) (r : Request) (fresh : String) (now : Instant) :
    (c.answerRegister server r fresh now).2 = (c'.answerRegister server r fresh now).2 := by
  cases hclaim : claimOf r with
  | error fault => rw [answerRegister_of_error hclaim, answerRegister_of_error hclaim]
  | ok claim => rw [answerRegister_of_ok hclaim, answerRegister_of_ok hclaim, h.snd_register]

lemma fst_answerRegister (server : String) (r : Request) (fresh : String) (now : Instant) :
    (c.answerRegister server r fresh now).1.Alike (c'.answerRegister server r fresh now).1 := by
  cases hclaim : claimOf r with
  | error fault =>
    rw [answerRegister_of_error hclaim, answerRegister_of_error hclaim]
    exact h
  | ok claim =>
    rw [answerRegister_of_ok hclaim, answerRegister_of_ok hclaim]
    exact h.fst_register claim.1 claim.2 server fresh now

lemma snd_answerHeartbeat (r : Request) (now : Instant) :
    (c.answerHeartbeat r now).2 = (c'.answerHeartbeat r now).2 := by
  cases hclaim : claimOf r with
  | error fault => rw [answerHeartbeat_of_error hclaim, answerHeartbeat_of_error hclaim]
  | ok claim => rw [answerHeartbeat_of_ok hclaim, answerHeartbeat_of_ok hclaim, h.snd_heartbeat]

lemma fst_answerHeartbeat (r : Request) (now : Instant) :
    (c.answerHeartbeat r now).1.Alike (c'.answerHeartbeat r now).1 := by
  cases hclaim : claimOf r with
  | error fault =>
    rw [answerHeartbeat_of_error hclaim, answerHeartbeat_of_error hclaim]
    exact h
  | ok claim =>
    rw [answerHeartbeat_of_ok hclaim, answerHeartbeat_of_ok hclaim]
    exact h.fst_heartbeat claim.1 claim.2 now

lemma registerContent_eq (server : String) (e : Envelope) (fresh : String) (now : Instant) :
    c.registerContent server e fresh now = c'.registerContent server e fresh now := by
  simp only [registerContent, h.token_eq, h.snd_answerRegister]

lemma heartbeatContent_eq (e : Envelope) (now : Instant) :
    c.heartbeatContent e now = c'.heartbeatContent e now := by
  simp only [heartbeatContent, h.token_eq, h.snd_answerHeartbeat]

lemma sealReply_eq (server : String) (m : Rpc.Method) : c.sealReply server m = c'.sealReply server m := by
  funext r
  rw [sealReply, sealReply, h.name_eq, h.token_eq]

lemma fst_serveRegister (server : String) (e : Envelope) (fresh : String) (now : Instant) :
    (c.serveRegister server e fresh now).1.Alike (c'.serveRegister server e fresh now).1 := by
  cases hopen : Request.open? c.token .register e with
  | error fault =>
    rw [serveRegister_of_sealed hopen, serveRegister_of_sealed (h.token_eq ▸ hopen)]
    exact ⟨h.name_eq, h.token_eq, h.get?_eq⟩
  | ok r =>
    rw [serveRegister_of_opened hopen, serveRegister_of_opened (h.token_eq ▸ hopen)]
    exact h.fst_answerRegister server r fresh now

lemma fst_serveHeartbeat (server : String) (e : Envelope) (now : Instant) :
    (c.serveHeartbeat server e now).1.Alike (c'.serveHeartbeat server e now).1 := by
  cases hopen : Request.open? c.token .heartbeat e with
  | error fault =>
    rw [serveHeartbeat_of_sealed hopen, serveHeartbeat_of_sealed (h.token_eq ▸ hopen)]
    exact h
  | ok r =>
    rw [serveHeartbeat_of_opened hopen, serveHeartbeat_of_opened (h.token_eq ▸ hopen)]
    exact h.fst_answerHeartbeat r now

/-! ### Merges -/

lemma insert (key : String) (node : Node) :
    ({ c with nodes := c.nodes.insert key node } : Cluster).Alike
      { c' with nodes := c'.nodes.insert key node } :=
  ⟨h.name_eq, h.token_eq, fun name => by simp [h.get?_eq]⟩

/-- The quarantine has no say in a merge. -/
lemma mergePeers (this : Identity) (center : Roster) (peers : List Identity) (now : Instant) :
    (PeerView.mergePeers ⟨this, c, center⟩ peers now).2 =
        (PeerView.mergePeers ⟨this, c', center⟩ peers now).2 ∧
      (PeerView.mergePeers ⟨this, c, center⟩ peers now).1.cluster.Alike
        (PeerView.mergePeers ⟨this, c', center⟩ peers now).1.cluster := by
  suffices hfold : ∀ (d d' : Cluster) (count : ℕ), d.Alike d' →
      (peers.foldl (PeerView.mergePeer now) (⟨this, d, center⟩, count)).2 =
          (peers.foldl (PeerView.mergePeer now) (⟨this, d', center⟩, count)).2 ∧
        (peers.foldl (PeerView.mergePeer now) (⟨this, d, center⟩, count)).1.cluster.Alike
          (peers.foldl (PeerView.mergePeer now) (⟨this, d', center⟩, count)).1.cluster from
    hfold c c' 0 h
  -- the clusters stay alike peer by peer, and count the same
  clear h
  induction peers with
  | nil => exact fun d d' count h => ⟨rfl, h⟩
  | cons peer peers ih =>
    intro d d' count h
    have hcontains : d.nodes.contains peer.name = d'.nodes.contains peer.name := by
      rw [Roster.contains_eq_isSome, Roster.contains_eq_isSome, h.get?_eq]
    have haccepts : PeerView.accepts ⟨this, d, center⟩ peer = PeerView.accepts ⟨this, d', center⟩ peer :=
      rfl
    rw [List.foldl_cons, List.foldl_cons, PeerView.mergePeer_eq, PeerView.mergePeer_eq]
    by_cases hnew : PeerView.accepts ⟨this, d', center⟩ peer = true ∧ d'.nodes.contains peer.name = false
    · rw [if_pos hnew, if_pos (by rwa [haccepts, hcontains])]
      exact ih _ _ _ (h.insert _ _)
    · rw [if_neg hnew, if_neg (by rwa [haccepts, hcontains])]
      exact ih _ _ _ h

/-! ### All commands -/

/-- Alike clusters answer a command alike, and stay alike. -/
lemma obey (fresh : String) (command : Command) :
    (c.obey fresh command).2 = (c'.obey fresh command).2 ∧
      (c.obey fresh command).1.Alike (c'.obey fresh command).1 := by
  cases command with
  | register claimed token server now =>
    exact ⟨congrArg Report.registration (h.snd_register claimed token server fresh now),
      h.fst_register claimed token server fresh now⟩
  | authenticate claimed token now =>
    exact ⟨congrArg Report.authentication (h.snd_authenticate claimed token now),
      h.fst_authenticate claimed token now⟩
  | heartbeat claimed token now =>
    exact ⟨congrArg Report.heartbeat (h.snd_heartbeat claimed token now),
      h.fst_heartbeat claimed token now⟩
  | serveRegister server e now =>
    refine ⟨?_, h.fst_serveRegister server e fresh now⟩
    simp only [Cluster.obey, snd_serveRegister, h.registerContent_eq, h.sealReply_eq]
  | serveHeartbeat server e now =>
    refine ⟨?_, h.fst_serveHeartbeat server e now⟩
    simp only [Cluster.obey, snd_serveHeartbeat, h.heartbeatContent_eq, h.sealReply_eq]
  | evict now => exact ⟨congrArg Report.eviction (h.snd_evictStale now), h.fst_evictStale now⟩
  | merge this center peers now =>
    obtain ⟨hcount, hfst⟩ := h.mergePeers this center peers now
    exact ⟨congrArg Report.merged hcount, hfst⟩

end Alike

end Cluster

namespace Server

variable {tokens : ℕ → String} {s s' : Server}

/-- Servers that are alike have issued as many tokens. -/
structure Alike (s s' : Server) : Prop where
  cluster : s.cluster.Alike s'.cluster
  minted_eq : s.minted = s'.minted

lemma Alike.trans {s'' : Server} (h : s.Alike s') (h' : s'.Alike s'') : s.Alike s'' :=
  ⟨h.cluster.trans h'.cluster, h.minted_eq.trans h'.minted_eq⟩

lemma Alike.step (h : s.Alike s') (tokens : ℕ → String) (command : Command) :
    (s.step tokens command).2 = (s'.step tokens command).2 ∧
      (s.step tokens command).1.Alike (s'.step tokens command).1 := by
  obtain ⟨hreport, hcluster⟩ := h.cluster.obey (tokens s.minted) command
  unfold Server.step
  rw [← h.minted_eq]
  exact ⟨hreport, hcluster, congrArg (s.minted + ·.minted) hreport⟩

/-- A command that is answered with an error leaves a server that is alike. -/
lemma alike_step_of_isError {command : Command}
    (h : (s.step tokens command).2.isError = true) : (s.step tokens command).1.Alike s where
  cluster := Cluster.alike_obey_of_isError h
  minted_eq := by
    change s.minted + (s.step tokens command).2.minted = s.minted
    rw [Report.minted_of_isError h, Nat.add_zero]

/-- A part of a history from which only commands that were answered with an error are missing. -/
inductive Thinned : List (Command × Report) → List (Command × Report) → Prop where
  | nil : Thinned [] []
  | keep (entry : Command × Report) {all kept : List (Command × Report)} (h : Thinned all kept) :
      Thinned (entry :: all) (entry :: kept)
  | erase {entry : Command × Report} (herror : entry.2.isError = true)
      {all kept : List (Command × Report)} (h : Thinned all kept) : Thinned (entry :: all) kept

lemma Thinned.refl : ∀ all : List (Command × Report), Thinned all all
  | [] => .nil
  | entry :: all => .keep entry (refl all)

lemma thinned_filter (all : List (Command × Report)) :
    Thinned all (all.filter fun entry => !entry.2.isError) := by
  induction all with
  | nil => exact .nil
  | cons entry all ih =>
    cases herror : entry.2.isError with
    | true => simpa [herror] using .erase herror ih
    | false => simpa [herror] using .keep entry ih

lemma map_fst_history (s : Server) (commands : List Command) :
    (s.history tokens commands).map (·.1) = commands := by
  induction commands generalizing s with
  | nil => rfl
  | cons command commands ih => rw [history, List.map_cons, ih]

/-- A history without some of its refusals is itself a history, with the same results; the induction is on
what was left out. -/
lemma Thinned.history_eq (hs : s.Alike s') {commands : List Command} {kept : List (Command × Report)}
    (h : Thinned (s.history tokens commands) kept) :
    s'.history tokens (kept.map (·.1)) = kept ∧
      (s.run tokens commands).Alike (s'.run tokens (kept.map (·.1))) := by
  induction commands generalizing s s' kept with
  | nil =>
    cases h
    exact ⟨rfl, hs⟩
  | cons command commands ih =>
    cases h with
    | @keep _ _ kept h =>
      obtain ⟨hreport, halike⟩ := hs.step tokens command
      obtain ⟨hrest, hrun⟩ := ih halike h
      refine ⟨?_, hrun⟩
      rw [List.map_cons, history, hrest, hreport]
    | erase herror h =>
      -- only the first server obeys the command, and is what it was before as far as the other one can tell
      exact ih ((alike_step_of_isError herror).trans hs) h

/-- Any commands that were answered with an error may be erased from a history: the others are answered
as before, with the same tokens, and the records are the same in the end.  Nor does it matter who is in
quarantine. -/
theorem history_of_thinned (tokens : ℕ → String) (s : Server) (commands : List Command) :
    (∀ kept, Thinned (s.history tokens commands) kept →
      s.history tokens (kept.map (·.1)) = kept ∧
        (s.run tokens (kept.map (·.1))).cluster.nodes.entries =
          (s.run tokens commands).cluster.nodes.entries) ∧
    ∀ quarantine revision,
      let s' := { s with cluster.quarantine := quarantine, cluster.nodes.revision := revision }
      s'.history tokens commands = s.history tokens commands ∧
        (s'.run tokens commands).cluster.nodes.entries =
          (s.run tokens commands).cluster.nodes.entries := by
  constructor
  · intro kept hkept
    obtain ⟨hhistory, hrun⟩ := hkept.history_eq ⟨.refl _, rfl⟩
    exact ⟨hhistory, hrun.cluster.entries_eq.symm⟩
  · intro quarantine revision s'
    have hs : s.Alike s' := ⟨⟨rfl, rfl, fun _ => rfl⟩, rfl⟩
    obtain ⟨hhistory, hrun⟩ := (Thinned.refl (s.history tokens commands)).history_eq hs
    rw [map_fst_history] at hhistory hrun
    exact ⟨hhistory, hrun.cluster.entries_eq.symm⟩

/-- Four of seven requests are turned down: one with the wrong credentials, one that does not open, one
for a name that is taken, and one with a wrong token. -/
theorem history_of_thinned_four_errors :
    let x : Identity := ⟨"x", "10.0.0.2", 5000, "prod"⟩
    let thief : Identity := ⟨"x", "10.0.0.9", 5000, "prod"⟩
    let tokens (k : ℕ) : String := if k = 0 then "first" else "second"
    let s : Server := ⟨.new "prod" "secret", 0⟩
    let commands : List Command :=
      [.register x "guess" "server" 0, .serveRegister "server" ⟨"prod", "x", 0, []⟩ 1,
        .register x "secret" "server" 2, .register thief "secret" "server" 3,
        .authenticate x "second" 4, .heartbeat x "first" 5, .evict (Span.seconds 61)]
    let kept := (s.history tokens commands).filter fun entry => !entry.2.isError
    kept.length = 3 ∧ s.history tokens (kept.map (·.1)) = kept ∧
      (s.run tokens (kept.map (·.1))).cluster.nodes.entries =
        (s.run tokens commands).cluster.nodes.entries := by
  intro x thief tokens s commands kept
  obtain ⟨hhistory, hrun⟩ := (history_of_thinned tokens s commands).1 kept (thinned_filter _)
  exact ⟨by decide +kernel, hhistory, hrun⟩

end Server

end Flotilla
