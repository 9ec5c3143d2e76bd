import Mathlib.Data.List.Induction
import Flotilla.Proofs.Cluster.Admission
import Flotilla.Proofs.Cluster.Commands
import Flotilla.Proofs.EndNode.Records

/-!
# Who is in quarantine

A name gets into quarantine when a registration under it fails the check of the cluster, or is sealed with
something else than the token of the cluster.  It gets out when a registration under it passes the check,
when its node proves itself with its token, and when it is old at an eviction.  So a name is in quarantine
if it has failed and nothing of this kind has happened since its last failure.
-/

namespace Flotilla

open Rpc (Method Reply Request)

/-! ### Reading a history -/

/-- Who a sealed request is from, if it opens under the token of a cluster and makes a claim. -/
def Envelope.claimed? (secret : String) (m : Method) (e : Envelope) : Option Identity :=
  match Request.open? secret m e with
  | .error _ => none
  | .ok r => (claimOf r).toOption.map (·.1)

def registrationCode : Except RegisterError Registration → ResponseCode
  | .ok r => r.code
  | .error e => e.code

namespace Quarantine

/-- Who a registration is from, when it comes, and how it is answered, in the clear or sealed. -/
def registration? (secret : String) : Command × Report → Option (Identity × Instant × ResponseCode)
  | (.register claimed _ _ now, .registration result) => some (claimed, now, registrationCode result)
  | (.serveRegister _ e now, .answer _ (.ok reply)) => do
    return (← e.claimed? secret .register, now, ← ResponseCode.ofNumber? reply.code)
  | _ => none

/-- Who a sealed registration that does not open is from, as its header has it, and when it comes. -/
def unopened? (secret : String) : Command → Option (Identity × Instant)
  | .serveRegister _ e now =>
    match Request.open? secret .register e with
    | .error _ => some (⟨e.sender, "", 0, e.cluster⟩, now)
    | .ok _ => none
  | _ => none

/-- Who has proved itself with the token that it was issued. -/
def proved? (secret : String) : Command × Report → Option Identity
  | (.authenticate claimed _ _, .authentication (.ok _)) => some claimed
  | (.heartbeat claimed _ _, .heartbeat (.ok _)) => some claimed
  | (.serveHeartbeat _ e _, .answer _ (.ok reply)) =>
    if reply.code = ResponseCode.ok.number then e.claimed? secret .heartbeat else none
  | _ => none

/-- When stale peers are evicted. -/
def eviction? : Command → Option Instant
  | .evict now => some now
  | _ => none

/-- A registration under this identity fails the check of the cluster. -/
inductive Fails (secret : String) (who : Identity) (since : Instant) (entry : Command × Report) : Prop
  | answered (h : registration? secret entry = some (who, since, .wrongCluster))
  | unopened (h : unopened? secret entry.1 = some (who, since))

/-- A name that has failed is cleared of it. -/
inductive Clears (secret name : String) (since : Instant) (entry : Command × Report) : Prop
  | passed (who : Identity) (now : Instant) (code : ResponseCode)
      (h : registration? secret entry = some (who, now, code))
      (hcode : code = .ok ∨ code = .alreadyRegistered ∨ code = .nameCollision) (hname : who.name = name)
  | proved (who : Identity) (h : proved? secret entry = some who) (hname : who.name = name)
  | expired (now : Instant) (h : eviction? entry.1 = some now) (hold : (Span.seconds 60 : Int) ≤ now - since)

/-- The last failure of a name, of which nothing has cleared it since. -/
def LastFailure (secret name : String) (past : List (Command × Report)) (who : Identity)
    (since : Instant) : Prop :=
  who.name = name ∧ ∃ before entry after, past = before ++ entry :: after ∧
    Fails secret who since entry ∧
    ∀ later ∈ after, (∀ other now, Fails secret other now later → other.name ≠ name) ∧
      ¬ Clears secret name since later

variable {secret name : String} {entry : Command × Report}

/-- An envelope that does not open claims nothing. -/
lemma claimed?_of_unopened {m : Method} {e : Envelope} {fault : OpenError}
    (h : Request.open? secret m e = .error fault) : e.claimed? secret m = none := by
  rw [Envelope.claimed?, h]

/-- A registration that does not open claims nothing. -/
lemma registration?_of_unopened {x : Identity × Instant} (h : unopened? secret entry.1 = some x) :
    registration? secret entry = none := by
  obtain ⟨command, report⟩ := entry
  cases command with
  | serveRegister server e now =>
    cases hopen : Request.open? secret .register e with
    | error fault =>
      have hclaim := claimed?_of_unopened hopen
      rcases report with _ | _ | _ | ⟨sent, _ | reply⟩ | _ | _
      all_goals simp [registration?, hclaim]
    | ok r => simp [unopened?, hopen] at h
  | register | authenticate | heartbeat | serveHeartbeat | evict | merge => simp [unopened?] at h

/-- An entry shows one failure at most. -/
lemma Fails.unique {who who' : Identity} {since since' : Instant} (h : Fails secret who since entry)
    (h' : Fails secret who' since' entry) : who = who' ∧ since = since' := by
  cases h with
  | answered h =>
    cases h' with
    | answered h' =>
      rw [h] at h'
      cases h'
      exact ⟨rfl, rfl⟩
    | unopened h' =>
      rw [registration?_of_unopened h'] at h
      cases h
  | unopened h =>
    cases h' with
    | answered h' =>
      rw [registration?_of_unopened h] at h'
      cases h'
    | unopened h' =>
      rw [h] at h'
      cases h'
      exact ⟨rfl, rfl⟩

lemma not_lastFailure_nil (who : Identity) (since : Instant) : ¬ LastFailure secret name [] who since := by
  rintro ⟨-, before, entry, after, hpast, -⟩
  simp at hpast

lemma lastFailure_snoc (past : List (Command × Report)) (entry : Command × Report) (who : Identity)
    (since : Instant) :
    LastFailure secret name (past ++ [entry]) who since ↔
      who.name = name ∧ Fails secret who since entry ∨
        LastFailure secret name past who since ∧
          (∀ other now, Fails secret other now entry → other.name ≠ name) ∧
          ¬ Clears secret name since entry := by
  constructor
  · rintro ⟨hname, before, failing, after, hpast, hfails, hafter⟩
    obtain ⟨rfl, rfl, -⟩ | ⟨later, rfl, rfl⟩ := append_cons_eq_snoc_iff.1 hpast.symm
    · exact .inl ⟨hname, hfails⟩
    · refine .inr ⟨⟨hname, before, failing, later, rfl, hfails, fun x hx => ?_⟩, ?_⟩
      · exact hafter x (List.mem_append_left _ hx)
      · exact hafter entry (List.mem_append_right _ List.mem_cons_self)
  · rintro (⟨hname, hfails⟩ | ⟨⟨hname, before, failing, after, rfl, hfails, hafter⟩, hlast⟩)
    · exact ⟨hname, past, entry, [], rfl, hfails, by simp⟩
    · refine ⟨hname, before, failing, after ++ [entry], by simp, hfails, fun later hlater => ?_⟩
      rcases List.mem_append.1 hlater with hlater | hlater
      · exact hafter later hlater
      · rwa [List.mem_singleton.1 hlater]

/-! ### What commands do to a name -/

/-- What an entry makes of what is in quarantine under a name. -/
inductive Marks (secret name : String) (known : Option Node) (entry : Command × Report) :
    Option Node → Prop
  | failed (who : Identity) (since : Instant) (h : Fails secret who since entry) (hname : who.name = name) :
      Marks secret name known entry (some (.new who since))
  | cleared (hfails : ∀ who since, ¬ Fails secret who since entry)
      (hclears : ∀ since, Clears secret name since entry) : Marks secret name known entry none
  | aged (now : Instant) (h : eviction? entry.1 = some now) :
      Marks secret name known entry (known.filter (·.isValidAt now))
  | kept (hfails : ∀ who since, Fails secret who since entry → who.name ≠ name)
      (hclears : ∀ since, ¬ Clears secret name since entry) : Marks secret name known entry known

namespace Marks

variable {known : Option Node} {claimed : Identity} {now : Instant}

/-- A command that is neither a registration nor an eviction clears the name of one who proved itself. -/
lemma of_proved (hregistration : registration? secret entry = none)
    (hopened : unopened? secret entry.1 = none) (hevict : eviction? entry.1 = none) : Marks secret name known entry
      (if (proved? secret entry).any (·.name = name) then none else known) := by
  have hfails (who : Identity) (since : Instant) : ¬ Fails secret who since entry := by
    rintro (h | h)
    · rw [hregistration] at h
      cases h
    · rw [hopened] at h
      cases h
  split_ifs with hproved
  · obtain ⟨who, hwho, hname⟩ := (Option.any_eq_true _ _).1 hproved
    exact .cleared hfails fun since => .proved who hwho (by simpa using hname)
  · refine .kept (fun who since h => absurd h (hfails who since)) ?_
    rintro since (⟨who, now, code, h, -, -⟩ | ⟨who, h, hname⟩ | ⟨now, h, -⟩)
    · rw [hregistration] at h
      cases h
    · simp [h, hname] at hproved
    · cases hevict.symm.trans h

/-- A registration marks the name that it claims. -/
lemma of_registration {result : Except RegisterError Registration}
    (h : registration? secret entry = some (claimed, now, registrationCode result))
    (hproved : proved? secret entry = none) (hevict : eviction? entry.1 = none) :
    Marks secret name known entry
      (if claimed.name = name then quarantinedAfter claimed now known result else known) := by
  have hopened : unopened? secret entry.1 = none := by
    cases hx : unopened? secret entry.1 with
    | none => rfl
    | some x =>
      rw [registration?_of_unopened hx] at h
      cases h
  have hfails {who : Identity} {since : Instant} (hwho : Fails secret who since entry) :
      who = claimed ∧ registrationCode result = .wrongCluster := by
    rcases hwho with hwho | hwho
    · rw [h] at hwho
      simp only [Option.some.injEq, Prod.mk.injEq] at hwho
      exact ⟨hwho.1.symm, hwho.2.2⟩
    · rw [hopened] at hwho
      cases hwho
  have hclears {since : Instant} (hclear : Clears secret name since entry) : claimed.name = name ∧
      (registrationCode result = .ok ∨ registrationCode result = .alreadyRegistered ∨
        registrationCode result = .nameCollision) := by
    rcases hclear with ⟨who, t, code, hwho, hcode, hname⟩ | ⟨who, hwho, -⟩ | ⟨t, ht, -⟩
    · rw [h] at hwho
      simp only [Option.some.injEq, Prod.mk.injEq] at hwho
      obtain ⟨rfl, -, rfl⟩ := hwho
      exact ⟨hname, hcode⟩
    · rw [hproved] at hwho
      cases hwho
    · cases hevict.symm.trans ht
  split_ifs with hname
  · have hpassed (hcode : registrationCode result = .ok ∨ registrationCode result = .alreadyRegistered ∨
        registrationCode result = .nameCollision) : Marks secret name known entry none := by
      refine .cleared (fun who since hwho => ?_) fun since => .passed claimed now _ h hcode hname
      rw [(hfails hwho).2] at hcode
      simp at hcode
    cases result with
    | ok r =>
      obtain ⟨token, already⟩ := r
      cases already with
      | true => exact hpassed (.inr (.inl rfl))
      | false => exact hpassed (.inl rfl)
    | error e =>
      cases e with
      | wrongCluster => exact .failed claimed now (.answered h) hname
      | nameCollision => exact hpassed (.inr (.inr rfl))
      | invalidAddress | sameNameAsServer =>
        refine .kept (fun who since hwho => ?_) fun since hclear => ?_
        · cases (hfails hwho).2
        · simpa [registrationCode, RegisterError.code] using (hclears hclear).2
  · refine .kept (fun who since hwho => ?_) fun since hclear => hname (hclears hclear).1
    rwa [(hfails hwho).1]

lemma eq_evict_of_eviction? {command : Command} {now : Instant} (h : eviction? command = some now) :
    command = .evict now := by
  cases command with
  | evict t =>
    cases h
    rfl
  | register | authenticate | heartbeat | serveRegister | serveHeartbeat | merge => cases h

/-- Nobody fails in an eviction. -/
lemma not_fails_evict {now : Instant} (h : eviction? entry.1 = some now) (who : Identity) (since : Instant) :
    ¬ Fails secret who since entry := by
  obtain ⟨command, report⟩ := entry
  obtain rfl := eq_evict_of_eviction? h
  rintro (h | h)
  · cases h
  · cases h

/-- An eviction clears a name sixty seconds after its failure. -/
lemma clears_evict_iff {now : Instant} (h : eviction? entry.1 = some now) (since : Instant) :
    Clears secret name since entry ↔ (Span.seconds 60 : Int) ≤ now - since := by
  obtain ⟨command, report⟩ := entry
  obtain rfl := eq_evict_of_eviction? h
  constructor
  · rintro (⟨who, t, code, h, -, -⟩ | ⟨who, h, -⟩ | ⟨t, h, hold⟩)
    · cases h
    · cases h
    · cases h
      exact hold
  · exact .expired now rfl

/-- If what is in quarantine was the last failure, it is still so after an entry. -/
lemma lastFailure {past : List (Command × Report)} {after : Option Node}
    (h : Marks secret name known entry after)
    (hknown : ∀ node, known = some node ↔
      ∃ who since, LastFailure secret name past who since ∧ node = .new who since) (node : Node) :
    after = some node ↔
      ∃ who since, LastFailure secret name (past ++ [entry]) who since ∧ node = .new who since := by
  simp only [lastFailure_snoc]
  cases h with
  | failed who since hfails hname =>
    constructor
    · rintro ⟨⟩
      exact ⟨who, since, .inl ⟨hname, hfails⟩, rfl⟩
    · rintro ⟨who', since', ⟨-, hfails'⟩ | ⟨-, hother, -⟩, rfl⟩
      · obtain ⟨rfl, rfl⟩ := hfails.unique hfails'
        rfl
      · exact absurd hname (hother who since hfails)
  | cleared hfails hclears =>
    constructor
    · rintro ⟨⟩
    · rintro ⟨who, since, ⟨-, hfails'⟩ | ⟨-, -, hstays⟩, rfl⟩
      · exact absurd hfails' (hfails who since)
      · exact absurd (hclears since) hstays
  | aged now hevict =>
    simp only [Option.filter_eq_some_iff, hknown, clears_evict_iff hevict]
    constructor
    · rintro ⟨⟨who, since, hlast, rfl⟩, hvalid⟩
      refine ⟨who, since, .inr ⟨hlast, fun other t h => absurd h (not_fails_evict hevict other t), ?_⟩, rfl⟩
      exact fun hold =>
        absurd (Node.isValidAt_new_iff.1 hvalid) (Int.not_lt.2 (Int.add_le_of_le_sub_left hold))
    · rintro ⟨who, since, ⟨-, hfails⟩ | ⟨hlast, -, hyoung⟩, rfl⟩
      · exact absurd hfails (not_fails_evict hevict who since)
      · refine ⟨⟨who, since, hlast, rfl⟩, Node.isValidAt_new_iff.2 (Int.not_le.1 fun hold => hyoung ?_)⟩
        exact Int.le_sub_left_of_add_le hold
  | kept hfails hclears =>
    rw [hknown]
    constructor
    · rintro ⟨who, since, hlast, rfl⟩
      exact ⟨who, since, .inr ⟨hlast, hfails, hclears since⟩, rfl⟩
    · rintro ⟨who, since, ⟨hname, hfails'⟩ | ⟨hlast, -, -⟩, rfl⟩
      · exact absurd hname (hfails who since hfails')
      · exact ⟨who, since, hlast, rfl⟩

end Marks

end Quarantine

namespace Cluster

open Quarantine

variable (c : Cluster)

/-- Who proves itself leaves the quarantine. -/
lemma get?_quarantine_authenticate (claimed : Identity) (token : String) (now : Instant) (name : String) :
    (c.authenticate claimed token now).1.quarantine.get? name =
      if claimed.name = name ∧ (c.authenticate claimed token now).2.toOption.isSome then none
      else c.quarantine.get? name := by
  cases hget : c.nodes.get? claimed.name with
  | none =>
    rw [authenticate_of_none hget]
    simp [Except.toOption]
  | some node =>
    cases hfault : credentialFault? node claimed token now with
    | some fault =>
      rw [authenticate_of_fault hget hfault]
      simp [Except.toOption]
    | none =>
      rw [authenticate_of_no_fault hget hfault]
      simp [release, Except.toOption]

@[simp] lemma token_obey (fresh : String) (command : Command) :
    (c.obey fresh command).1.token = c.token := by
  cases command with
  | register | authenticate | heartbeat => simp [obey]
  | serveRegister server e now =>
    simp only [obey]
    cases hopen : Request.open? c.token .register e with
    | error fault =>
      rw [serveRegister_of_sealed hopen]
      rfl
    | ok r => rw [serveRegister_of_opened hopen, token_answerRegister]
  | serveHeartbeat server e now =>
    simp only [obey]
    cases hopen : Request.open? c.token .heartbeat e with
    | error fault => rw [serveHeartbeat_of_sealed hopen]
    | ok r => rw [serveHeartbeat_of_opened hopen, token_answerHeartbeat]
  | evict now => rfl
  | merge this center peers now =>
    obtain ⟨nodes, hmerge⟩ := PeerView.exists_mergePeers_eq ⟨this, c, center⟩ peers now
    simp only [obey, hmerge]

/-- A sealed registration marks the name in its header if it does not open, and the one that it claims if it
does. -/
lemma marks_serveRegister (server : String) (e : Envelope) (fresh : String) (now : Instant)
    (name : String) (sent : Rpc.Answer) :
    Marks c.token name (c.quarantine.get? name)
      (.serveRegister server e now, .answer sent (c.registerContent server e fresh now))
      ((c.serveRegister server e fresh now).1.quarantine.get? name) := by
  cases hopen : Request.open? c.token .register e with
  | error fault =>
    have hunopened {report : Report} : unopened? c.token (.serveRegister server e now, report).1 =
        some (⟨e.sender, "", 0, e.cluster⟩, now) := by
      simp [unopened?, hopen]
    have hmark : (c.serveRegister server e fresh now).1.quarantine.get? name =
        if e.sender = name then some (.new ⟨e.sender, "", 0, e.cluster⟩ now) else c.quarantine.get? name := by
      rw [serveRegister_of_sealed hopen]
      exact Roster.get?_insert ..
    rw [hmark]
    split_ifs with hname
    · exact .failed _ now (.unopened hunopened) hname
    · refine .kept (fun who since hfails => ?_) ?_
      · rw [← (Fails.unique (.unopened hunopened) hfails).1]
        exact hname
      · rintro since (⟨who, t, code, h, -, -⟩ | ⟨who, h, -⟩ | ⟨t, h, -⟩)
        · rw [registration?_of_unopened hunopened] at h
          cases h
        · cases h
        · cases h
  | ok r =>
    have hcontent : c.registerContent server e fresh now = .ok (c.answerRegister server r fresh now).2 := by
      rw [registerContent, hopen]
    rw [serveRegister_of_opened hopen, hcontent]
    cases hclaim : claimOf r with
    | error fault =>
      rw [answerRegister_of_error hclaim]
      refine .of_proved ?_ ?_ rfl
      · simp [registration?, Envelope.claimed?, hopen, hclaim, Except.toOption]
      · simp [unopened?, hopen]
    | ok claim =>
      rw [answerRegister_of_ok hclaim, get?_quarantine_register]
      refine Marks.of_registration ?_ rfl rfl
      cases hresult : (c.register claim.1 claim.2 server fresh now).2 <;>
        simp [registration?, Envelope.claimed?, hopen, hclaim, Except.toOption, registrationReply,
          registrationCode, Reply.failure]

/-- A sealed heartbeat clears the name that it claims if it is authentic. -/
lemma marks_serveHeartbeat (server : String) (e : Envelope) (now : Instant) (name : String)
    (sent : Rpc.Answer) :
    Marks c.token name (c.quarantine.get? name)
      (.serveHeartbeat server e now, .answer sent (c.heartbeatContent e now))
      ((c.serveHeartbeat server e now).1.quarantine.get? name) := by
  cases hopen : Request.open? c.token .heartbeat e with
  | error fault =>
    rw [serveHeartbeat_of_sealed hopen, heartbeatContent, hopen]
    exact Marks.of_proved (by rfl) (by rfl) (by rfl)
  | ok r =>
    have hcontent : c.heartbeatContent e now = .ok (c.answerHeartbeat r now).2 := by
      rw [heartbeatContent, hopen]
    have hmarks : Marks c.token name (c.quarantine.get? name)
        (.serveHeartbeat server e now, .answer sent (.ok (c.answerHeartbeat r now).2)) _ :=
      .of_proved rfl rfl rfl
    rw [serveHeartbeat_of_opened hopen, hcontent]
    cases hclaim : claimOf r with
    | error fault =>
      have hclaimed : e.claimed? c.token .heartbeat = none := by
        simp [Envelope.claimed?, hopen, hclaim, Except.toOption]
      simpa [proved?, hclaimed, answerHeartbeat_of_error hclaim] using hmarks
    | ok claim =>
      have hclaimed : e.claimed? c.token .heartbeat = some claim.1 := by
        simp [Envelope.claimed?, hopen, hclaim, Except.toOption]
      rw [answerHeartbeat_of_ok hclaim] at hmarks ⊢
      rw [heartbeat_fst, get?_quarantine_authenticate]
      cases hresult : (c.authenticate claim.1 claim.2 now).2 with
      | error fault =>
        have hcode : (heartbeatReply (.error (heartbeatFault fault))).code ≠ ResponseCode.ok.number := by
          cases fault <;>
            simp [heartbeatFault, heartbeatReply, Reply.failure, HeartbeatError.code, AuthError.code,
              ResponseCode.number]
        simpa [proved?, heartbeat_of_error hresult, hcode, Except.toOption] using hmarks
      | ok node =>
        simpa [proved?, hclaimed, heartbeat_of_ok hresult, heartbeatReply, Reply.success,
          Except.toOption] using hmarks

/-- A command marks every name in one of the ways that `Marks` lists. -/
lemma marks_obey (fresh : String) (command : Command) (name : String) :
    Marks c.token name (c.quarantine.get? name) (command, (c.obey fresh command).2)
      ((c.obey fresh command).1.quarantine.get? name) := by
  cases command with
  | register claimed token server now =>
    simp only [obey, get?_quarantine_register]
    exact .of_registration (by rfl) (by rfl) (by rfl)
  | authenticate claimed token now =>
    have hmarks : Marks c.token name (c.quarantine.get? name)
        (.authenticate claimed token now, .authentication (c.authenticate claimed token now).2) _ :=
      .of_proved rfl rfl rfl
    simp only [obey, get?_quarantine_authenticate]
    cases hresult : (c.authenticate claimed token now).2 with
    | error e => simpa [hresult, proved?, Except.toOption] using hmarks
    | ok node => simpa [hresult, proved?, Except.toOption] using hmarks
  | heartbeat claimed token now =>
    have hmarks : Marks c.token name (c.quarantine.get? name)
        (.heartbeat claimed token now, .heartbeat (c.heartbeat claimed token now).2) _ :=
      .of_proved rfl rfl rfl
    simp only [obey, heartbeat_fst, get?_quarantine_authenticate]
    cases hresult : (c.authenticate claimed token now).2 with
    | error e => simpa [heartbeat_of_error hresult, proved?, Except.toOption] using hmarks
    | ok node => simpa [heartbeat_of_ok hresult, proved?, Except.toOption] using hmarks
  | serveRegister server e now => exact c.marks_serveRegister server e fresh now name _
  | serveHeartbeat server e now => exact c.marks_serveHeartbeat server e now name _
  | evict now =>
    have hfilter : (c.evictStale now).1.quarantine = (c.quarantine.filter (·.isValidAt now)).1 := rfl
    simp only [obey, hfilter, Roster.get?_filter]
    exact .aged now rfl
  | merge this center peers now =>
    obtain ⟨nodes, hmerge⟩ := PeerView.exists_mergePeers_eq ⟨this, c, center⟩ peers now
    simp only [obey, hmerge]
    exact .of_proved (by rfl) (by rfl) (by rfl)

end Cluster

namespace Server

open Quarantine

variable {tokens : ℕ → String} {s : Server}

lemma token_run (s : Server) (commands : List Command) :
    (s.run tokens commands).cluster.token = s.cluster.token := by
  induction commands generalizing s with
  | nil => rfl
  | cons command commands ih => exact (ih (s.step tokens command).1).trans (Cluster.token_obey ..)

/-- A name is in quarantine just if it has failed and was not cleared since; the induction is on the
commands from the last one. -/
lemma quarantined_run (hempty : ∀ name, s.cluster.quarantine.get? name = none) (commands : List Command)
    (name : String) (node : Node) :
    (s.run tokens commands).cluster.quarantine.get? name = some node ↔
      ∃ who since, LastFailure s.cluster.token name (s.history tokens commands) who since ∧
        node = .new who since := by
  induction commands using List.reverseRecOn generalizing node with
  | nil =>
    constructor
    · intro h
      rw [show (s.run tokens []).cluster.quarantine.get? name = none from hempty name] at h
      cases h
    · rintro ⟨who, since, hlast, -⟩
      exact absurd hlast (not_lastFailure_nil who since)
  | append_singleton commands command ih =>
    have hmarks := (s.run tokens commands).cluster.marks_obey (tokens (s.run tokens commands).minted) command
      name
    rw [token_run] at hmarks
    rw [history_append, run_append]
    exact hmarks.lastFailure ih node

/-- A server that starts without a quarantine has in it, after any commands, the names that have failed and
of which nothing has cleared the last failure: each with the identity that was claimed then, since then.
What comes of a command puts no name there, and renews none, unless a registration under the name fails. -/
theorem quarantined_iff_lastFailure (hempty : ∀ name, s.cluster.quarantine.get? name = none)
    (commands : List Command) :
    (∀ name node, (s.run tokens commands).cluster.quarantine.get? name = some node ↔
      ∃ who since, LastFailure s.cluster.token name (s.history tokens commands) who since ∧
        node = .new who since) ∧
    ∀ name command,
      let (s', report) := (s.run tokens commands).step tokens command
      (∀ who since, Fails s.cluster.token who since (command, report) → who.name ≠ name) →
        ∀ node, s'.cluster.quarantine.get? name = some node →
          (s.run tokens commands).cluster.quarantine.get? name = some node := by
  refine ⟨quarantined_run hempty commands, fun name command hspared node hnode => ?_⟩
  have hafter : (s.run tokens (commands ++ [command])).cluster.quarantine.get? name = some node := by
    rw [run_append]
    exact hnode
  obtain ⟨who, since, hlast, rfl⟩ := (quarantined_run hempty _ name node).1 hafter
  rw [history_append] at hlast
  rcases (lastFailure_snoc _ _ who since).1 hlast with ⟨hname, hfails⟩ | ⟨hlast, -, -⟩
  · exact absurd hname (hspared who since hfails)
  · exact (quarantined_run hempty commands name _).2 ⟨who, since, hlast, rfl⟩

/-- A registration under `y` does not open.  It outlives the eviction that clears `x`, which failed a second
before; what then comes from `y` without its address is turned down and leaves it there. -/
theorem quarantined_iff_lastFailure_unopened :
    let s : Server := ⟨.new "prod" "secret", 0⟩
    let tokens (_ : ℕ) : String := "token"
    let commands : List Command :=
      [.register ⟨"x", "10.0.0.2", 5000, "prod"⟩ "guess" "server" 0,
        .serveRegister "server" ⟨"prod", "y", 0, []⟩ 1, .evict (Span.seconds 60)]
    let nobody : Command := .register ⟨"y", "", 0, "prod"⟩ "secret" "server" (Span.seconds 60)
    (∀ name, s.cluster.quarantine.get? name = none) ∧
      (∃ who since, LastFailure "secret" "y" (s.history tokens commands) who since ∧
        Node.new ⟨"y", "", 0, "prod"⟩ 1 = .new who since) ∧
      (¬ ∃ who since, LastFailure "secret" "x" (s.history tokens commands) who since ∧
        Node.new ⟨"x", "10.0.0.2", 5000, "prod"⟩ 0 = .new who since) ∧
      (s.run tokens (commands ++ [nobody])).cluster.quarantine.get? "y" =
        some (.new ⟨"y", "", 0, "prod"⟩ 1) := by
  intro s tokens commands nobody
  have hempty (name : String) : s.cluster.quarantine.get? name = none := rfl
  have hy : (s.run tokens commands).cluster.quarantine.get? "y" = some (.new ⟨"y", "", 0, "prod"⟩ 1) := by
    decide +kernel
  have hx : (s.run tokens commands).cluster.quarantine.get? "x" = none := by decide +kernel
  have hcharacter := (@quarantined_iff_lastFailure tokens s hempty commands).1
  refine ⟨hempty, (hcharacter "y" _).1 hy, fun h => ?_, by decide +kernel⟩
  rw [(hcharacter "x" _).2 h] at hx
  cases hx

end Server

end Flotilla
