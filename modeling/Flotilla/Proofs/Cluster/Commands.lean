import Flotilla.Proofs.Service.Membership
import Flotilla.PeerView

/-!
# Commands to a cluster

What others may ask of a cluster, in the clear or sealed, with what they are told.  A server is a cluster
with a supply of tokens, of which it takes the next one whenever it has to issue one.
-/

namespace Flotilla

open Rpc (Answer Method Reply Request Status)

/-! ### Commands -/

/-- What a cluster may be told to do. -/
inductive Command where
  | register (claimed : Identity) (token server : String) (now : Instant)
  | authenticate (claimed : Identity) (token : String) (now : Instant)
  | heartbeat (claimed : Identity) (token : String) (now : Instant)
  /-- A sealed registration arrives at a server; it may not open. -/
  | serveRegister (server : String) (e : Envelope) (now : Instant)
  | serveHeartbeat (server : String) (e : Envelope) (now : Instant)
  | evict (now : Instant)
  /-- A node with this identity and center merges a list of peers. -/
  | merge (this : Identity) (center : Roster) (peers : List Identity) (now : Instant)

inductive Report where
  | registration (result : Except RegisterError Registration)
  | authentication (result : Except AuthError Node)
  | heartbeat (result : Except HeartbeatError (List Identity))
  /-- An answer as it is sent, with what is inside. -/
  | answer (sent : Answer) (content : Except Status Reply)
  | eviction (dropped : List String)
  | merged (count : ℕ)

namespace Report

def isError : Report → Bool
  | .registration result => !result.isOk
  | .authentication result => !result.isOk
  | .heartbeat result => !result.isOk
  | .answer _ (.error _) => true
  | .answer _ (.ok r) =>
    r.code != ResponseCode.ok.number && r.code != ResponseCode.alreadyRegistered.number
  | .eviction _ => false
  | .merged _ => false

/-- How many new tokens the command was answered with. -/
def minted : Report → ℕ
  | .registration (.ok r) => if r.alreadyRegistered then 0 else 1
  | .answer _ (.ok ⟨code, _, .token _⟩) => if code = ResponseCode.ok.number then 1 else 0
  | _ => 0

/-- A refusal takes no token from the stream. -/
lemma minted_of_isError {r : Report} (h : r.isError = true) : r.minted = 0 := by
  unfold minted
  split
  · cases h
  · rename_i code _ _
    have hcode : code ≠ ResponseCode.ok.number := by
      simp only [isError, Bool.and_eq_true, bne_iff_ne] at h
      exact h.1
    exact if_neg hcode
  · rfl

end Report

namespace Cluster

/-- What is inside the answer to a sealed registration. -/
def registerContent (c : Cluster) (server : String) (e : Envelope) (fresh : String) (now : Instant) :
    Except Status Reply :=
  match Request.open? c.token .register e with
  | .error fault =>
    .error ⟨.unauthenticated, "cannot open registration from " ++ e.sender ++ ": " ++ fault.message⟩
  | .ok r => .ok (c.answerRegister server r fresh now).2

/-- What is inside the answer to a sealed heartbeat. -/
def heartbeatContent (c : Cluster) (e : Envelope) (now : Instant) : Except Status Reply :=
  match Request.open? c.token .heartbeat e with
  | .error fault =>
    .error ⟨.unauthenticated, "cannot open heartbeat from " ++ e.sender ++ ": " ++ fault.message⟩
  | .ok r => .ok (c.answerHeartbeat r now).2

/-- The answer to a sealed registration is its content, sealed. -/
lemma snd_serveRegister (c : Cluster) (server : String) (e : Envelope) (fresh : String) (now : Instant) :
    (c.serveRegister server e fresh now).2 =
      (c.registerContent server e fresh now).map (c.sealReply server .register) := by
  cases hopen : Request.open? c.token .register e with
  | error fault =>
    rw [serveRegister_of_sealed hopen, registerContent, hopen]
    rfl
  | ok r =>
    rw [serveRegister_of_opened hopen, registerContent, hopen]
    refine congrArg Except.ok ?_
    rw [sealReply, sealReply, name_answerRegister, token_answerRegister]

/-- The reply to a heartbeat is sealed last, so its content can be compared before. -/
lemma snd_serveHeartbeat (c : Cluster) (server : String) (e : Envelope) (now : Instant) :
    (c.serveHeartbeat server e now).2 =
      (c.heartbeatContent e now).map (c.sealReply server .heartbeat) := by
  cases hopen : Request.open? c.token .heartbeat e with
  | error fault =>
    rw [serveHeartbeat_of_sealed hopen, heartbeatContent, hopen]
    rfl
  | ok r =>
    rw [serveHeartbeat_of_opened hopen, heartbeatContent, hopen]
    refine congrArg Except.ok ?_
    rw [sealReply, sealReply, name_answerHeartbeat, token_answerHeartbeat]

/-- Carries out a command; `fresh` is the token to issue if one is needed. -/
def obey (c : Cluster) (fresh : String) : Command → Cluster × Report
  | .register claimed token server now =>
    let (c, result) := c.register claimed token server fresh now
    (c, .registration result)
  | .authenticate claimed token now =>
    let (c, result) := c.authenticate claimed token now
    (c, .authentication result)
  | .heartbeat claimed token now =>
    let (c, result) := c.heartbeat claimed token now
    (c, .heartbeat result)
  | .serveRegister server e now =>
    let (c', sent) := c.serveRegister server e fresh now
    (c', .answer sent (c.registerContent server e fresh now))
  | .serveHeartbeat server e now =>
    let (c', sent) := c.serveHeartbeat server e now
    (c', .answer sent (c.heartbeatContent e now))
  | .evict now =>
    let (c, dropped) := c.evictStale now
    (c, .eviction dropped)
  | .merge this center peers now =>
    let (v, count) := PeerView.mergePeers ⟨this, c, center⟩ peers now
    (v.cluster, .merged count)

end Cluster

/-- A cluster, and how many tokens it has taken from its supply. -/
structure Server where
  cluster : Cluster
  minted : ℕ

namespace Server

variable (tokens : ℕ → String)

/-- Carries out a command with the next token of the supply. -/
def step (s : Server) (command : Command) : Server × Report :=
  let (cluster, report) := s.cluster.obey (tokens s.minted) command
  (⟨cluster, s.minted + report.minted⟩, report)

def run (s : Server) (commands : List Command) : Server :=
  commands.foldl (fun s command => (s.step tokens command).1) s

/-- Some commands and what comes of them, one after the other. -/
def history (s : Server) : List Command → List (Command × Report)
  | [] => []
  | command :: commands =>
    (command, (s.step tokens command).2) :: history (s.step tokens command).1 commands

variable {tokens} (s : Server) (commands commands' : List Command)

lemma run_append : s.run tokens (commands ++ commands') = (s.run tokens commands).run tokens commands' := by
  simp [run]

lemma history_append : s.history tokens (commands ++ commands') =
    s.history tokens commands ++ (s.run tokens commands).history tokens commands' := by
  induction commands generalizing s with
  | nil => rfl
  | cons command commands ih =>
    rw [List.cons_append, history, ih, history]
    rfl

end Server

end Flotilla
