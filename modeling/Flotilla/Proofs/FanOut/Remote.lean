import Mathlib.Tactic.Common
import Flotilla.Engine.Memory
import Flotilla.FanOut
import Flotilla.Proofs.Json.RoundTrip
import Flotilla.Proofs.Rpc.Sealing
import Flotilla.Proofs.Service.Operations

/-!
# A remote operation is the local one

A task that is fanned out travels to its target, is carried out there, and its outcome travels back.  On
the whole way nothing is lost or mixed up: the engine of the target ends in the state that the task itself
leads to, and the sender learns its outcome or its error.
-/

namespace Flotilla

open Rpc (Answer CallError Method Reply Request)

/-! ### Opaque values on their way -/

/-- A plain value is read back from its text. -/
lemma Wire.opaqueValue_render {v : Json} (h : v.Plain) : opaqueValue v.render = v := by
  rw [opaqueValue, if_neg (Json.render_ne_empty h.1), Json.parse?_render h]
  rfl

/-- A user with a plain account arrives as it was sent. -/
lemma Wire.User.toUser_ofUser {u : Flotilla.User} (h : u.account.Plain) : (ofUser u).toUser = u := by
  rw [ofUser, toUser, opaqueValue_render h]

/-- An inbound with plain settings arrives as it was sent. -/
lemma Wire.Inbound.toInbound_ofInbound {i : Flotilla.Inbound} (h : i.settings.Plain) :
    (ofInbound i).toInbound = .ok i := by
  have hport : i.port.toUInt32 < 65536 := by
    rw [UInt32.lt_iff_toNat_lt]
    simpa using i.port.toNat_lt
  rw [ofInbound, toInbound, if_pos hport, opaqueValue_render h]
  simp

lemma Wire.map_toUser_ofUser {us : List Flotilla.User} (h : ∀ u ∈ us, u.account.Plain) :
    (us.map Wire.User.ofUser).map (·.toUser) = us := by
  rw [List.map_map]
  exact (List.map_congr_left fun u hu => User.toUser_ofUser (h u hu)).trans (List.map_id us)

/-! ### Tasks and outcomes on their way -/

/-- The settings and accounts in a task are plain values. -/
def Task.Plain : Task → Prop
  | .addUsers users => ∀ u ∈ users, u.account.Plain
  | .addInbound inbound => inbound.settings.Plain
  | _ => True

/-- The accounts in an outcome are plain values. -/
def Outcome.Plain : Outcome → Prop
  | .users us => ∀ u ∈ us, u.account.Plain
  | _ => True

lemma Task.operation_of_ofJson? {o : Operation} {payload : Json} {t : Task}
    (h : ofJson? o payload = some t) : t.operation = o := by
  cases o <;> simp only [ofJson?, Option.bind_eq_bind, Option.bind_eq_some_iff] at h <;>
    obtain ⟨slots, -, h⟩ := h <;> split at h <;>
    simp only [Option.bind_eq_some_iff, Option.pure_def, Option.some.injEq, reduceCtorEq] at h
  all_goals
    first
      | obtain ⟨_, -, rfl⟩ := h; rfl
      | obtain ⟨_, -, _, -, rfl⟩ := h; rfl

lemma Wire.Task.operation_ofTask (t : Flotilla.Task) : (ofTask t).operation = t.operation := by
  cases t <;> rfl

/-- A task with plain values arrives as it was sent. -/
lemma Wire.Task.toTask_ofTask {t : Flotilla.Task} (h : t.Plain) : (ofTask t).toTask = .ok t := by
  cases t with
  | addUsers users => simp only [ofTask, toTask, map_toUser_ofUser h]
  | addInbound inbound =>
    simp only [ofTask, toTask, Inbound.toInbound_ofInbound h]
    rfl
  | deleteUsers | getUsers | deleteInbound | getStats | obtainCert | getCerts => rfl

/-- What arrives of an outcome that is sent back: the accounts are read from their texts. -/
def Outcome.arrived (outcome : Outcome) : Outcome := (Rpc.Body.ofOutcome outcome).toOutcome

/-- An outcome with plain accounts arrives as it was sent. -/
lemma Outcome.arrived_eq {outcome : Outcome} (h : outcome.Plain) : outcome.arrived = outcome := by
  cases outcome with
  | users us => exact congrArg Outcome.users (Wire.map_toUser_ofUser h)
  | done | stats | certs => rfl

/-! ### The far end -/

/-- What comes out of a mapped call was mapped from something. -/
lemma EngineCall.exists_of_map_eq_ok {σ α β : Type} {f : α → β} {call : EngineCall σ α} {now : Instant}
    {engine : σ} {b : β} (h : (call.map f now engine).2 = .ok b) : ∃ a, f a = b := by
  rw [map] at h
  cases hcall : (call now engine).2 with
  | error fault =>
    rw [hcall] at h
    cases h
  | ok a =>
    rw [hcall] at h
    exact ⟨a, Except.ok.inj h⟩

section FarEnd

variable {σ : Type} [ProxyEngine σ] [CertManager σ] {engine : σ} {now : Instant} {t : Task}

/-- Whatever an engine gives, the outcome of a task is of the kind that its operation is answered with. -/
lemma Task.answers_of_run_eq_ok {outcome : Outcome} (h : (t.run now engine).2 = .ok outcome) :
    (Rpc.Body.ofOutcome outcome).Answers (.operate t.operation) := by
  rw [run, call.eq_def] at h
  cases t with
  | getCerts domain =>
    dsimp only at h
    split_ifs at h
    · obtain ⟨certs, rfl⟩ := EngineCall.exists_of_map_eq_ok h
      trivial
    · obtain ⟨cert, rfl⟩ := EngineCall.exists_of_map_eq_ok h
      trivial
  | addUsers | deleteUsers | getUsers | addInbound | deleteInbound | getStats | obtainCert =>
    obtain ⟨given, rfl⟩ := EngineCall.exists_of_map_eq_ok h
    trivial

/-- A task that arrives is run as it was sent. -/
lemma Rpc.Request.perform_ofTask (engine : σ) (o : Operation) {r : Request} (now : Instant)
    (hcall : r.call = .operate (.ofTask t)) (h : t.Plain) :
    r.perform o now engine = ((t.run now engine).1, o.replyTo (t.run now engine).2) := by
  simp only [perform, hcall, Wire.Task.toTask_ofTask h]

end FarEnd

/-! ### The near end -/

namespace FanOut

/-- What the answer to a call to a target brings. -/
def received (target : Node) (o : Operation) (rpcTimeout : Span) (answer : Option Answer) :
    Except TargetFailure Outcome :=
  ((Rpc.reply target.outToken (.operate o) rpcTimeout answer).bind outcome).mapError .call

end FanOut

/-- Fans out an operation with its payload to targets; `transport` gives the answer to the call of each
of them. -/
def EndNode.fanOut {σ : Type} (n : EndNode σ) (o : Operation) (payload : Json) (targets : List Node)
    (now : Instant) (transport : Node → Envelope → Option Answer) : Except FanOutError FanOut :=
  match Task.ofJson? o payload with
  | none => .error (.payload o)
  | some t =>
    let result (target : Node) : String × Except TargetFailure Outcome :=
      (target.name, FanOut.received target o n.intervals.rpcTimeout
        (transport target (FanOut.envelope n.this target t)))
    .ok (FanOut.collect ((FanOut.called targets now).map result) (FanOut.skippedNames targets now))

namespace FanOut

variable {o : Operation} {target : Node} {cluster sender name : String} {rpcTimeout : Span}

/-- What the results of a fan-out say about a target. -/
def Holds (result : FanOut) (name : String) : Except TargetFailure Outcome → Prop
  | .ok outcome => result.succeeded[name]? = some outcome ∧ result.failed[name]? = none
  | .error failure => result.succeeded[name]? = none ∧ result.failed[name]? = some failure

/-- The results of other targets do not matter for what a target brought. -/
lemma getElem?_foldl_enter {results : List (String × Except TargetFailure Outcome)}
    (h : ∀ r ∈ results, r.1 ≠ name) (f : FanOut) :
    (results.foldl (fun (acc : FanOut) r => acc.enter r.1 r.2) f).succeeded[name]? =
        f.succeeded[name]? ∧
      (results.foldl (fun (acc : FanOut) r => acc.enter r.1 r.2) f).failed[name]? =
        f.failed[name]? := by
  induction results generalizing f with
  | nil => exact ⟨rfl, rfl⟩
  | cons r results ih =>
    have hne : ¬ r.1 = name := h r List.mem_cons_self
    obtain ⟨hsucceeded, hfailed⟩ := ih (fun r' hr' => h r' (List.mem_cons_of_mem _ hr')) (f.enter r.1 r.2)
    rw [List.foldl_cons, hsucceeded, hfailed]
    cases r.2 <;> simp [enter, Std.ExtTreeMap.getElem?_insert, hne]

/-- A fan-out holds the result of each target under its name. -/
lemma holds_collect {before after : List (String × Except TargetFailure Outcome)}
    {result : Except TargetFailure Outcome} {skipped : List String}
    (hbefore : ∀ r ∈ before, r.1 ≠ name) (hafter : ∀ r ∈ after, r.1 ≠ name) :
    (collect (before ++ (name, result) :: after) skipped).Holds name result := by
  rw [collect, List.foldl_append, List.foldl_cons]
  obtain ⟨hsucceeded, hfailed⟩ := getElem?_foldl_enter hbefore ⟨∅, ∅, skipped⟩
  generalize before.foldl (fun (acc : FanOut) r => acc.enter r.1 r.2) ⟨∅, ∅, skipped⟩ = f
    at hsucceeded hfailed
  obtain ⟨hsucceeded', hfailed'⟩ := getElem?_foldl_enter hafter (f.enter name result)
  cases result with
  | ok outcome =>
    refine ⟨hsucceeded'.trans ?_, hfailed'.trans ?_⟩
    · simp [enter]
    · simpa [enter] using hfailed
  | error failure =>
    refine ⟨hsucceeded'.trans ?_, hfailed'.trans ?_⟩
    · simpa [enter] using hsucceeded
    · simp [enter]

/-- What a target's result becomes on its way back. -/
def arrival : Except EngineError Outcome → Except TargetFailure Outcome
  | .ok outcome => .ok outcome.arrived
  | .error fault => .error (.call (.rejected ResponseCode.operationFailed.number fault.message))

/-- A rejected operation is reported with the wording of the engine error. -/
lemma message_rejected (msg : String) :
    (TargetFailure.call (.rejected ResponseCode.operationFailed.number msg)).message =
      "OperationFailed(500): " ++ msg := by
  have hcode : ResponseCode.describe ResponseCode.operationFailed.number ++ ": " =
      "OperationFailed(500): " := by
    decide +kernel
  exact congrArg (· ++ msg) hcode

/-- The reply to a task brings the outcome of the task or the rejection. -/
lemma received_replyTo {result : Except EngineError Outcome}
    (hanswers : ∀ outcome, result = .ok outcome →
      (Rpc.Body.ofOutcome outcome).Answers (.operate o))
    (h : ((o.replyTo result).close .node target.outToken cluster sender (.operate o)).Portable) :
    received target o rpcTimeout
        (some (.ok ((o.replyTo result).close .node target.outToken cluster sender (.operate o)))) =
      arrival result := by
  have hbody : (o.replyTo result).body.Answers (.operate o) := by
    cases result with
    | ok outcome => exact hanswers outcome rfl
    | error fault => exact Rpc.Body.answers_blank _
  rw [received, Rpc.reply]
  simp only [Reply.open?_close hbody h]
  cases result <;> rfl

end FanOut

/-! ### There and back -/

/-- A record is about a node, holds the token that the node presents, and a signal of it that is recent
when the node is served. -/
structure Node.Trusts (known : Node) (this : Identity) (token : String) (served : Instant) : Prop where
  identity_eq : known.identity = this
  inToken_eq : known.inToken = token
  exists_heardAt : ∃ s, known.heardAt = some s ∧ served - s < (heartbeatTimeout : Int)

namespace FanOut

variable {v : PeerView} {this : Identity} {target known : Node} {t : Task} {sent served : Instant}

/-- A task that is sent to a target which trusts the sender is admitted there. -/
lemma admits_envelope (haddress : this.HasAddress) (hsent : target.registeredRemoteAt sent = true)
    (hget : v.cluster.nodes.get? this.name = some known)
    (htrusts : known.Trusts this target.outToken served) (h : (envelope this target t).Portable) :
    v.Admits t.operation (envelope this target t) served known (request this target t) where
  get?_eq := hget
  opens := by
    have hopen := Request.open?_close h
    rw [htrusts.inToken_eq, ← Wire.Task.operation_ofTask t]
    exact hopen
  proves :=
    { auth_eq := by rw [htrusts.identity_eq, htrusts.inToken_eq]; rfl
      name_eq := by rw [htrusts.identity_eq]; rfl
      hasAddress := by rwa [htrusts.identity_eq]
      inToken_ne := by
        simp only [Node.registeredRemoteAt, Bool.and_eq_true, bne_iff_ne] at hsent
        rw [htrusts.inToken_eq]
        exact hsent.1
      isRecent := by
        obtain ⟨s, hs, hrecent⟩ := htrusts.exists_heardAt
        intro s' hs'
        rw [hs] at hs'
        cases hs'
        simpa [Instant.isRecent] using hrecent }

/-- A target whose token is live is called, in its place. -/
lemma called_append_cons (h : target.registeredRemoteAt sent = true) (before after : List Node) :
    called (before ++ target :: after) sent = called before sent ++ target :: called after sent := by
  simp [called, isCalled, h]

/-- The name of a target that is called is not among those that are skipped. -/
lemma not_mem_skippedNames {before after : List Node} (h : target.registeredRemoteAt sent = true)
    (hnames : ∀ n ∈ before ++ after, n.name ≠ target.name) :
    target.name ∉ skippedNames (before ++ target :: after) sent := by
  intro hmem
  obtain ⟨n, hn, hname⟩ := List.mem_map.1 hmem
  obtain ⟨hn, hskipped⟩ := List.mem_filter.1 hn
  rw [List.mem_append, List.mem_cons] at hn
  rcases hn with hn | rfl | hn
  · exact hnames n (List.mem_append_left _ hn) hname
  · simp [isCalled, h] at hskipped
  · exact hnames n (List.mem_append_right _ hn) hname

lemma skipped_collect (results : List (String × Except TargetFailure Outcome)) (skipped : List String) :
    (collect results skipped).skipped = skipped := by
  have hkeeps : ∀ f : FanOut,
      (results.foldl (fun (acc : FanOut) r => acc.enter r.1 r.2) f).skipped = f.skipped := by
    induction results with
    | nil => exact fun f => rfl
    | cons r results ih =>
      intro f
      rw [List.foldl_cons, ih]
      cases r.2 <;> rfl
  exact hkeeps _

end FanOut

variable {σ τ : Type} [ProxyEngine σ] [CertManager σ]

/-- A node that trusts the sender of a task carries it out and replies with what it led to. -/
lemma EndNode.serve_envelope {b : EndNode σ} {this : Identity} {target known : Node} {t : Task}
    {served : Instant} (fresh : String) (hplain : t.Plain)
    (hadmits : b.view.Admits t.operation (FanOut.envelope this target t) served known
      (FanOut.request this target t)) :
    ∃ view, b.serve (.operate t.operation) (FanOut.envelope this target t) fresh served =
      ({ b with view, engine := (t.run served b.engine).1 },
        .ok ((t.operation.replyTo (t.run served b.engine).2).close .node known.inToken
          b.view.cluster.name b.view.this.name (.operate t.operation))) := by
  have hcall : (FanOut.request this target t).call = .operate (.ofTask t) := rfl
  simp only [serve, PeerView.serveOperation_of_admits hadmits,
    Rpc.Request.perform_ofTask b.engine t.operation served hcall hplain]
  exact ⟨_, rfl⟩

/-- To fan out an operation to a node that trusts the sender is to carry it out there: the engine of the
node ends in the state that the task leads to, and the outcome of the task, or the wording of its error,
is the result that the sender holds under the name of the node. -/
theorem EndNode.fanOut_run_of_trusts {a : EndNode τ} {b : EndNode σ} {o : Operation} {payload : Json}
    {t : Task} {before after : List Node} {target known : Node} {sent served : Instant} {fresh : String}
    {transport : Node → Envelope → Option Answer}
    (hpayload : Task.ofJson? o payload = some t) (hplain : t.Plain) (haddress : a.this.HasAddress)
    (hsent : target.registeredRemoteAt sent = true)
    (hget : b.view.cluster.nodes.get? a.this.name = some known)
    (htrusts : known.Trusts a.this target.outToken served)
    (hnames : ∀ n ∈ before ++ after, n.name ≠ target.name)
    (hrequest : (FanOut.envelope a.this target t).Portable)
    (hreply : ∀ e, (b.serve (.operate o) (FanOut.envelope a.this target t) fresh served).2 = .ok e →
      e.Portable)
    (hdelivers : transport target (FanOut.envelope a.this target t) =
      some (b.serve (.operate o) (FanOut.envelope a.this target t) fresh served).2) :
    (b.serve (.operate o) (FanOut.envelope a.this target t) fresh served).1.engine =
        (t.run served b.engine).1 ∧
      ∃ result, a.fanOut o payload (before ++ target :: after) sent transport = .ok result ∧
        target.name ∉ result.skipped ∧
        match (t.run served b.engine).2 with
        | .ok outcome =>
          result.succeeded[target.name]? = some outcome.arrived ∧
            result.failed[target.name]? = none ∧ (outcome.Plain → outcome.arrived = outcome)
        | .error fault =>
          result.succeeded[target.name]? = none ∧
            (result.failed[target.name]?).map (·.message) =
              some ("OperationFailed(500): " ++ fault.message) := by
  obtain rfl := Task.operation_of_ofJson? hpayload
  have hadmits := FanOut.admits_envelope haddress hsent hget htrusts hrequest
  obtain ⟨view, hserve⟩ := EndNode.serve_envelope fresh hplain hadmits
  rw [htrusts.inToken_eq] at hserve
  rw [hserve] at hreply hdelivers ⊢
  refine ⟨rfl, ?_⟩
  have hreceived : FanOut.received target t.operation a.intervals.rpcTimeout
      (transport target (FanOut.envelope a.this target t)) =
        FanOut.arrival (t.run served b.engine).2 := by
    rw [hdelivers]
    exact FanOut.received_replyTo (fun outcome => Task.answers_of_run_eq_ok) (hreply _ rfl)
  have hresult : ∃ result, a.fanOut t.operation payload (before ++ target :: after) sent transport =
      .ok result ∧ target.name ∉ result.skipped ∧
        result.Holds target.name (FanOut.arrival (t.run served b.engine).2) := by
    simp only [fanOut, hpayload, FanOut.called_append_cons hsent, List.map_append, List.map_cons,
      hreceived]
    refine ⟨_, rfl, ?_, FanOut.holds_collect ?_ ?_⟩
    · rw [FanOut.skipped_collect]
      exact FanOut.not_mem_skippedNames hsent hnames
    · rintro r hr
      obtain ⟨n, hn, rfl⟩ := List.mem_map.1 hr
      exact hnames n (List.mem_append_left _ (List.mem_filter.1 hn).1)
    · rintro r hr
      obtain ⟨n, hn, rfl⟩ := List.mem_map.1 hr
      exact hnames n (List.mem_append_right _ (List.mem_filter.1 hn).1)
  obtain ⟨result, hfanOut, hskipped, hholds⟩ := hresult
  refine ⟨result, hfanOut, hskipped, ?_⟩
  cases hrun : (t.run served b.engine).2 with
  | ok outcome =>
    rw [hrun] at hholds
    exact ⟨hholds.1, hholds.2, Outcome.arrived_eq⟩
  | error fault =>
    rw [hrun] at hholds
    refine ⟨hholds.1, ?_⟩
    rw [hholds.2, Option.map_some, FanOut.message_rejected]

/-! ### A query -/

namespace FanOut.Query

def asker : Identity := ⟨"a", "10.0.0.1", 5000, "c"⟩

def asked : Identity := ⟨"b", "10.0.0.2", 5000, "c"⟩

def user : User := ⟨"u@x", "vless", "in", .object [("id", .int (-7)), ("on", .list [.bool true, .null])]⟩

def engine : MemoryEngine :=
  { MemoryEngine.empty with
    inbounds := (∅ : Table Inbound).insert "in" ⟨"in", "vless", 443, .null⟩
    users := (∅ : Table (Table User)).insert "in" ((∅ : Table User).insert "u@x" user) }

/-- A node that knows nobody. -/
def alone {σ : Type} (this : Identity) (engine : σ) : EndNode σ :=
  ⟨PeerView.new this "s", .standard, 64, engine, none⟩

def known : Node := .registered asker "t" 0

/-- The node that is asked, which has an engine and no certificate manager. -/
def keeper : EndNode (MemoryEngine × Unconfigured) :=
  { alone asked (engine, ⟨⟩) with view.cluster.nodes := Roster.empty.insert "a" known }

/-- What the node that asks knows about the other one. -/
def target : Node := { Node.new asked 0 with outToken := "t", reportedAt := some 0 }

def transport (_ : Node) (e : Envelope) : Option Answer :=
  some (keeper.serve (.operate .getUsers) e "" 0).2

def payload : Json := .ofFields [("inbound_tag", .text "in")]

lemma portable_envelope : (envelope asker target (.getUsers "in")).Portable :=
  Envelope.portable_close_iff.2 (by decide +kernel)

lemma registeredRemoteAt_target : target.registeredRemoteAt 0 = true := by decide

lemma plain_user : user.account.Plain := by
  constructor
  · exact ⟨⟨by decide, trivial⟩, ⟨by decide, by decide⟩, ⟨trivial, trivial, trivial⟩, trivial⟩
  · decide

lemma get?_keeper : keeper.view.cluster.nodes.get? "a" = some known :=
  (Roster.get?_insert ..).trans (if_pos rfl)

lemma trusts_known : known.Trusts asker target.outToken 0 := ⟨rfl, rfl, 0, rfl, by decide⟩

lemma run_keeper : ((Task.getUsers "in").run 0 keeper.engine).2 = .ok (.users [user]) := by
  decide +kernel

lemma portable_reply {e : Envelope}
    (h : (keeper.serve (.operate .getUsers) (envelope asker target (.getUsers "in")) "" 0).2 = .ok e) :
    e.Portable := by
  have hadmits := admits_envelope (by decide) registeredRemoteAt_target get?_keeper trusts_known
    portable_envelope
  have hplain : (Task.getUsers "in").Plain := trivial
  obtain ⟨view, hserve⟩ := EndNode.serve_envelope "" hplain hadmits
  rw [run_keeper] at hserve
  obtain rfl := Except.ok.inj ((congrArg Prod.snd hserve).symm.trans h)
  exact Envelope.portable_close_iff.2 (by decide +kernel)

end FanOut.Query

/-- The users of an inbound are asked for, and arrive with their accounts. -/
theorem EndNode.fanOut_run_of_trusts_users :
    ∃ result, (FanOut.Query.alone FanOut.Query.asker Unconfigured.mk).fanOut .getUsers
        FanOut.Query.payload [FanOut.Query.target] 0 FanOut.Query.transport = .ok result ∧
      result.succeeded["b"]? = some (.users [FanOut.Query.user]) := by
  have hpayload : Task.ofJson? .getUsers FanOut.Query.payload = some (.getUsers "in") := by
    decide +kernel
  have hplain : (Outcome.users [FanOut.Query.user]).Plain := by
    intro u hu
    rw [List.mem_singleton.1 hu]
    exact FanOut.Query.plain_user
  have hnames : ∀ n ∈ ([] ++ [] : List Node), n.name ≠ FanOut.Query.target.name := by
    intro n hn
    cases hn
  have hdelivers : FanOut.Query.transport FanOut.Query.target
      (FanOut.envelope FanOut.Query.asker FanOut.Query.target (.getUsers "in")) =
        some (FanOut.Query.keeper.serve (.operate .getUsers)
          (FanOut.envelope FanOut.Query.asker FanOut.Query.target (.getUsers "in")) "" 0).2 := rfl
  obtain ⟨-, result, hfanOut, -, hresult⟩ :=
    fanOut_run_of_trusts (a := FanOut.Query.alone FanOut.Query.asker Unconfigured.mk) hpayload trivial
      (by decide) FanOut.Query.registeredRemoteAt_target FanOut.Query.get?_keeper
      FanOut.Query.trusts_known hnames FanOut.Query.portable_envelope
      (fun e => FanOut.Query.portable_reply) hdelivers
  rw [FanOut.Query.run_keeper] at hresult
  obtain ⟨hsucceeded, -, harrived⟩ := hresult
  refine ⟨result, hfanOut, ?_⟩
  rw [← harrived hplain]
  exact hsucceeded

end Flotilla
