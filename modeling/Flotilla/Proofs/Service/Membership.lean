import Flotilla.Service.Membership
import Flotilla.Proofs.Cluster.Records

/-!
# How registrations and heartbeats are served

Opening a request, reading the claim inside it, and carrying it out each have an equation for success and
for failure.
-/

namespace Flotilla.Cluster

open Rpc (Reply Request Status)

variable {c : Cluster} {server fresh : String} {e : Envelope} {r : Request} {now : Instant}

/-! ### Opened requests -/

def registrationReply : Except RegisterError Registration → Reply
  | .ok registration => ⟨registration.code.number, "", .token registration.token⟩
  | .error e => .failure .register e.code e.message

def heartbeatReply : Except HeartbeatError (List Identity) → Reply
  | .ok peers => .success (.peers (peers.map .ofIdentity))
  | .error e => .failure .heartbeat e.code e.message

/-- A request without usable credentials changes nothing. -/
lemma answerRegister_of_error {fault : ResponseCode × String} (h : claimOf r = .error fault) :
    c.answerRegister server r fresh now = (c, .failure .register fault.1 fault.2) := by
  rw [answerRegister, h]

/-- A registration is answered with what the cluster makes of it. -/
lemma answerRegister_of_ok {claim : Identity × String} (h : claimOf r = .ok claim) :
    c.answerRegister server r fresh now =
      ((c.register claim.1 claim.2 server fresh now).1,
        registrationReply (c.register claim.1 claim.2 server fresh now).2) := by
  obtain ⟨claimed, token⟩ := claim
  simp only [answerRegister, h]
  generalize c.register claimed token server fresh now = result
  obtain ⟨d, e | registration⟩ := result <;> rfl

lemma answerHeartbeat_of_error {fault : ResponseCode × String} (h : claimOf r = .error fault) :
    c.answerHeartbeat r now = (c, .failure .heartbeat fault.1 fault.2) := by
  rw [answerHeartbeat, h]

/-- A heartbeat is answered with what the cluster makes of it. -/
lemma answerHeartbeat_of_ok {claim : Identity × String} (h : claimOf r = .ok claim) :
    c.answerHeartbeat r now =
      ((c.heartbeat claim.1 claim.2 now).1, heartbeatReply (c.heartbeat claim.1 claim.2 now).2) := by
  obtain ⟨claimed, token⟩ := claim
  simp only [answerHeartbeat, h]
  generalize c.heartbeat claimed token now = result
  obtain ⟨d, e | peers⟩ := result <;> rfl

@[simp] lemma name_answerRegister (c : Cluster) (server : String) (r : Request) (fresh : String)
    (now : Instant) : (c.answerRegister server r fresh now).1.name = c.name := by
  cases h : claimOf r with
  | error fault => rw [answerRegister_of_error h]
  | ok claim => rw [answerRegister_of_ok h, name_register]

@[simp] lemma token_answerRegister (c : Cluster) (server : String) (r : Request) (fresh : String)
    (now : Instant) : (c.answerRegister server r fresh now).1.token = c.token := by
  cases h : claimOf r with
  | error fault => rw [answerRegister_of_error h]
  | ok claim => rw [answerRegister_of_ok h, token_register]

@[simp] lemma name_answerHeartbeat (c : Cluster) (r : Request) (now : Instant) :
    (c.answerHeartbeat r now).1.name = c.name := by
  cases h : claimOf r with
  | error fault => rw [answerHeartbeat_of_error h]
  | ok claim => rw [answerHeartbeat_of_ok h, heartbeat_fst, name_authenticate]

@[simp] lemma token_answerHeartbeat (c : Cluster) (r : Request) (now : Instant) :
    (c.answerHeartbeat r now).1.token = c.token := by
  cases h : claimOf r with
  | error fault => rw [answerHeartbeat_of_error h]
  | ok claim => rw [answerHeartbeat_of_ok h, heartbeat_fst, token_authenticate]

/-! ### Sealed requests -/

/-- A registration that does not open is blamed on the sender of its envelope. -/
lemma serveRegister_of_sealed {fault : OpenError} (h : Request.open? c.token .register e = .error fault) :
    c.serveRegister server e fresh now =
      (c.isolate ⟨e.sender, "", 0, e.cluster⟩ now,
        .error ⟨.unauthenticated,
          "cannot open registration from " ++ e.sender ++ ": " ++ fault.message⟩) := by
  rw [serveRegister, h]

/-- The reply is sealed after the cluster has changed. -/
lemma serveRegister_of_opened (h : Request.open? c.token .register e = .ok r) :
    c.serveRegister server e fresh now =
      ((c.answerRegister server r fresh now).1,
        .ok ((c.answerRegister server r fresh now).1.sealReply server .register
          (c.answerRegister server r fresh now).2)) := by
  rw [serveRegister, h]

lemma serveHeartbeat_of_sealed {fault : OpenError}
    (h : Request.open? c.token .heartbeat e = .error fault) :
    c.serveHeartbeat server e now =
      (c, .error ⟨.unauthenticated,
        "cannot open heartbeat from " ++ e.sender ++ ": " ++ fault.message⟩) := by
  rw [serveHeartbeat, h]

lemma serveHeartbeat_of_opened (h : Request.open? c.token .heartbeat e = .ok r) :
    c.serveHeartbeat server e now =
      ((c.answerHeartbeat r now).1,
        .ok ((c.answerHeartbeat r now).1.sealReply server .heartbeat (c.answerHeartbeat r now).2)) := by
  rw [serveHeartbeat, h]

end Flotilla.Cluster
