import Flotilla.Proofs.FanOut.Accounting

/-!
# Fanning out to names

A fan-out to names looks them up, calls the peers that it finds and is registered with, and reports on every
name: it was called, skipped or not known.  Each call is reported by itself as long as no name is listed
twice.  A peer that is listed twice is called twice, and what its first call brought may be lost.
-/

namespace Flotilla

open Rpc (Reply)

/-! ### Fanning out to names -/

namespace PeerView

/-- The name under which a target is reported: that in its record, or its own if it is not known. -/
def reportedName (v : PeerView) (name : String) : String :=
  (v.cluster.nodes.get? name).elim name (·.name)

/-- A name belongs to a known peer that this node is not registered with. -/
def skips (v : PeerView) (now : Instant) (name : String) : Bool :=
  (v.cluster.nodes.get? name).any fun node => !node.registeredRemoteAt now

def beginFanOut (v : PeerView) (o : Operation) (payload : Json) (names : List String) (now : Instant) :
    Except FanOutError FanOut.Batch :=
  match Task.ofJson? o payload with
  | none => .error (.payload o)
  | some t => .ok (.start t (v.resolve names).1 (v.resolve names).2 now)

end PeerView

/-- Fans out an operation to peers by their names, with calls that end in their own ways and take turns in
some order: the targets that were sent a request, and the result, if there is one by then. -/
def EndNode.fanOutTo {σ : Type} (n : EndNode σ) (o : Operation) (payload : Json) (names : List String)
    (now : Instant) (endings : ℕ → Ending) (order : List ℕ) :
    List Node × Except FanOutError (Option FanOut) :=
  match n.view.beginFanOut o payload names now with
  | .error fault => ([], .error fault)
  | .ok batch =>
    let later := (FanOut.Underway.start batch).play n.intervals.rpcTimeout endings order
    (later.sent, .ok later.batch.result?)

/-! ### The names in a list -/

namespace PeerView

variable (v : PeerView) (names : List String) (now : Instant)

/-- Where every record is stored under the name of its peer, targets are reported under their own names. -/
lemma map_reportedName {v : PeerView}
    (h : ∀ key node, v.cluster.nodes.get? key = some node → node.name = key) (names : List String) :
    names.map v.reportedName = names := by
  have hname : ∀ name ∈ names, v.reportedName name = id name := by
    intro name _
    rw [reportedName]
    cases hget : v.cluster.nodes.get? name with
    | none => rfl
    | some node => exact h name node hget
  rw [List.map_congr_left hname, List.map_id]

/-- Every name belongs to a known peer or to none. -/
lemma perm_resolve :
    ((v.resolve names).1.map (·.name) ++ (v.resolve names).2).Perm (names.map v.reportedName) := by
  induction names with
  | nil => exact .refl []
  | cons name names ih =>
    rw [resolve] at ih ⊢
    cases hget : v.cluster.nodes.get? name with
    | none =>
      have hcontains : v.cluster.nodes.contains name = false := by
        rw [Roster.contains_eq_isSome, hget]
        rfl
      have hname : v.reportedName name = name := by rw [reportedName, hget]; rfl
      simp only [List.filterMap_cons, hget, List.filter_cons, hcontains, Bool.not_false, if_true,
        List.map_cons, hname]
      exact List.perm_middle.trans (ih.cons name)
    | some node =>
      have hcontains : v.cluster.nodes.contains name = true := by
        rw [Roster.contains_eq_isSome, hget]
        rfl
      have hname : v.reportedName name = node.name := by rw [reportedName, hget]; rfl
      simp only [List.filterMap_cons, hget, List.filter_cons, hcontains, Bool.not_true,
        Bool.false_eq_true, if_false, List.map_cons, hname, List.cons_append]
      exact ih.cons node.name

/-- Names are skipped in the order in which they were given. -/
lemma skippedNames_resolve :
    FanOut.skippedNames (v.resolve names).1 now = (names.filter (v.skips now)).map v.reportedName := by
  induction names with
  | nil => rfl
  | cons name names ih =>
    rw [FanOut.skippedNames, resolve] at ih ⊢
    cases hget : v.cluster.nodes.get? name with
    | none =>
      have hskips : v.skips now name = false := by rw [skips, hget]; rfl
      simpa only [List.filterMap_cons, hget, List.filter_cons, hskips, Bool.false_eq_true, if_false]
        using ih
    | some node =>
      have hname : v.reportedName name = node.name := by rw [reportedName, hget]; rfl
      have hskips : v.skips now name = !FanOut.isCalled now node := by rw [skips, hget]; rfl
      simp only [List.filterMap_cons, hget, List.filter_cons, hskips]
      cases FanOut.isCalled now node with
      | true => exact ih
      | false =>
        simp only [Bool.not_false, if_true, List.map_cons, hname]
        exact congrArg (node.name :: ·) ih

end PeerView

/-! ### The batch for a list of names -/

namespace EndNode

variable {σ : Type} {n : EndNode σ} {o : Operation} {payload : Json} {t : Task} {names : List String}
  {now : Instant} {endings : ℕ → Ending} {order : List ℕ}

/-- The batch in which a task goes to peers by their names. -/
def batchFor (n : EndNode σ) (t : Task) (names : List String) (now : Instant) : FanOut.Batch :=
  .start t (n.view.resolve names).1 (n.view.resolve names).2 now

/-- The peers that are called: those that are known and that this node is registered with. -/
def targetsAmong (n : EndNode σ) (names : List String) (now : Instant) : List Node :=
  (names.filterMap n.view.cluster.nodes.get?).filter (·.registeredRemoteAt now)

/-- All that a fan-out of a task finds out: what the calls bring, and which names are not known. -/
def findings (n : EndNode σ) (t : Task) (names : List String) (now : Instant) (endings : ℕ → Ending) :
    List (String × Except TargetFailure Outcome) :=
  (n.batchFor t names now).findings n.intervals.rpcTimeout endings

/-- What a fan-out of a task results in. -/
def conclusion (n : EndNode σ) (t : Task) (names : List String) (now : Instant) (endings : ℕ → Ending) :
    FanOut :=
  .collect (n.findings t names now endings) (n.batchFor t names now).skipped

lemma map_target_batchFor : (n.batchFor t names now).calls.map (·.target) = n.targetsAmong names now :=
  FanOut.Batch.map_target_start

/-- The calls are completed once each of them has had two turns. -/
lemma completedBy_batchFor :
    (n.batchFor t names now).CompletedBy order ↔
      ∀ place < (n.targetsAmong names now).length, 2 ≤ order.count place := by
  rw [FanOut.Batch.CompletedBy, ← map_target_batchFor (t := t), List.length_map]

/-! ### What is found out -/

/-- Every name is found out about or skipped. -/
lemma perm_findings (n : EndNode σ) (t : Task) (names : List String) (now : Instant)
    (endings : ℕ → Ending) :
    ((n.findings t names now endings).map (·.1) ++ (n.batchFor t names now).skipped).Perm
      (names.map n.view.reportedName) :=
  FanOut.Batch.perm_start.trans (n.view.perm_resolve names)

/-- A name is found at most as often as it was given. -/
lemma count_findings_le (n : EndNode σ) (t : Task) (names : List String) (now : Instant)
    (endings : ℕ → Ending) (name : String) :
    ((n.findings t names now endings).map (·.1)).count name ≤
      (names.map n.view.reportedName).count name := by
  rw [← (n.perm_findings t names now endings).count_eq name, List.count_append]
  exact Nat.le_add_right _ _

/-- What a call to a target brought is among what was found out. -/
lemma mem_findings {place : ℕ} {target : Node} (h : (n.targetsAmong names now)[place]? = some target)
    (t : Task) (endings : ℕ → Ending) :
    (target.name, FanOut.brought target t n.intervals.rpcTimeout (endings place)) ∈
      n.findings t names now endings := by
  rw [← map_target_batchFor (t := t), List.getElem?_map] at h
  obtain ⟨c, hc, rfl⟩ := Option.map_eq_some_iff.1 h
  exact FanOut.Batch.mem_findings_of_call hc

/-- An unknown name is found, and found to be unknown. -/
lemma mem_findings_of_unknown {name : String} (hname : name ∈ names)
    (hget : n.view.cluster.nodes.get? name = none) :
    (name, .error (.unknown name)) ∈ n.findings t names now endings := by
  apply List.mem_append_right
  apply List.mem_map.2
  refine ⟨name, List.mem_filter.2 ⟨hname, ?_⟩, rfl⟩
  rw [Roster.contains_eq_isSome, hget]
  rfl

/-! ### What becomes of a fan-out -/

/-- Nobody is called with a payload that cannot be read. -/
lemma fanOutTo_of_none (h : Task.ofJson? o payload = none) :
    n.fanOutTo o payload names now endings order = ([], .error (.payload o)) := by
  rw [fanOutTo, PeerView.beginFanOut, h]

/-- What a fan-out results in depends on how its calls ended, and not on their order. -/
lemma snd_fanOutTo_eq_iff (h : Task.ofJson? o payload = some t) {result : FanOut} :
    (n.fanOutTo o payload names now endings order).2 = .ok (some result) ↔
      (n.batchFor t names now).CompletedBy order ∧ result = n.conclusion t names now endings := by
  have hafter := FanOut.Underway.after_play (n.batchFor t names now) n.intervals.rpcTimeout endings order
  have hnew : ∀ c ∈ (n.batchFor t names now).calls, c.result = none := by
    intro c hc
    obtain ⟨target, -, rfl⟩ := List.mem_map.1 hc
    rfl
  have hresult : (n.fanOutTo o payload names now endings order).2 = .ok ((FanOut.Underway.start
      (n.batchFor t names now)).play n.intervals.rpcTimeout endings order).batch.result? := by
    rw [fanOutTo, PeerView.beginFanOut, h]
    rfl
  rw [hresult, Except.ok.injEq, hafter.batch_eq, FanOut.Batch.result?_after_eq_some_iff hnew,
    FanOut.Batch.conclusion_eq]
  rfl

/-- No target is sent more requests than there are calls to it, and in the end each is sent as many. -/
lemma fst_fanOutTo (h : Task.ofJson? o payload = some t) :
    (n.fanOutTo o payload names now endings order).1.Subperm (n.targetsAmong names now) ∧
      ((n.batchFor t names now).CompletedBy order →
        (n.fanOutTo o payload names now endings order).1.Perm (n.targetsAmong names now)) := by
  have hafter := FanOut.Underway.after_play (n.batchFor t names now) n.intervals.rpcTimeout endings order
  rw [← map_target_batchFor (t := t), fanOutTo, PeerView.beginFanOut, h]
  exact ⟨hafter.sent_subperm, hafter.perm_sent⟩

/-- A peer is sent no more requests than the list names it. -/
lemma count_fst_fanOutTo_le (h : Task.ofJson? o payload = some t) (peer : String) :
    ((n.fanOutTo o payload names now endings order).1.map (·.name)).count peer ≤
      (names.map n.view.reportedName).count peer := by
  have hcount (nodes : List Node) : (nodes.map (·.name)).count peer = nodes.countP (·.name == peer) := by
    rw [List.count_eq_countP, List.countP_map]
    rfl
  have htargets : (n.batchFor t names now).calls.map (·.target.name) =
      (n.targetsAmong names now).map (·.name) := by
    rw [← map_target_batchFor (t := t), List.map_map]
    rfl
  calc ((n.fanOutTo o payload names now endings order).1.map (·.name)).count peer
    _ ≤ ((n.targetsAmong names now).map (·.name)).count peer := by
      rw [hcount, hcount]
      exact (fst_fanOutTo h).1.countP_le _
    _ ≤ ((n.findings t names now endings).map (·.1)).count peer := by
      rw [findings, FanOut.Batch.map_fst_findings, htargets, List.count_append]
      exact Nat.le_add_right _ _
    _ ≤ (names.map n.view.reportedName).count peer := n.count_findings_le t names now endings peer

/-- What a result says about the targets of a task that were given by their names. -/
structure Accounts (n : EndNode σ) (t : Task) (names : List String) (now : Instant) (endings : ℕ → Ending)
    (result : FanOut) : Prop where
  divides : result.Divides (names.map n.view.reportedName)
  skipped_eq : result.skipped = (names.filter (n.view.skips now)).map n.view.reportedName
  unknown : ∀ name ∈ names, n.view.cluster.nodes.get? name = none →
    result.Holds name (.error (.unknown name))
  called : ∀ place target, (n.targetsAmong names now)[place]? = some target →
    result.Holds target.name (FanOut.brought target t n.intervals.rpcTimeout (endings place))
  succeeded_iff : ∀ place target, (n.targetsAmong names now)[place]? = some target → ∀ outcome,
    result.succeeded[target.name]? = some outcome ↔
      ∃ e r, endings place = .answered (.ok e) ∧
        Reply.open? target.outToken (.operate t.operation) e = .ok r ∧ r.code = 0 ∧
          outcome = r.body.toOutcome
  allSucceeded_iff : result.allSucceeded = true ↔
    ∀ name ∈ names, n.view.reportedName name ∈ result.succeeded

end EndNode

/-- A target has succeeded just if its result is a success. -/
lemma FanOut.Holds.succeeded_eq_some_iff {f : FanOut} {name : String}
    {result : Except TargetFailure Outcome} (h : f.Holds name result) (outcome : Outcome) :
    f.succeeded[name]? = some outcome ↔ result = .ok outcome := by
  cases result with
  | ok found => rw [h.1, Option.some.injEq, Except.ok.injEq]
  | error failure => simp [h.1]

namespace EndNode

variable {σ : Type} {n : EndNode σ} {o : Operation} {payload : Json} {names : List String}

/-- A fan-out to names that are reported under different names fails as a whole if its payload cannot be
read, and then nobody is sent a request.  Else it accounts for every target, by what the call to this target
brought; and it does so however the other calls end and in whatever order they do. -/
theorem fanOutTo_accounts (hnames : (names.map n.view.reportedName).Nodup) (now : Instant)
    (endings : ℕ → Ending) :
    (Task.ofJson? o payload = none → ∀ order,
      n.fanOutTo o payload names now endings order = ([], .error (.payload o))) ∧
    ∀ t, Task.ofJson? o payload = some t → ∃ result : FanOut, n.Accounts t names now endings result ∧
      ∀ order, (∀ place < (n.targetsAmong names now).length, 2 ≤ order.count place) →
        (n.fanOutTo o payload names now endings order).2 = .ok (some result) ∧
          (n.fanOutTo o payload names now endings order).1.Perm (n.targetsAmong names now) := by
  refine ⟨fun hnone order => fanOutTo_of_none hnone, fun t ht => ?_⟩
  have hcount (name : String) : ((n.findings t names now endings).map (·.1)).count name ≤ 1 :=
    Nat.le_trans (n.count_findings_le t names now endings name) (List.nodup_iff_count_le_one.1 hnames name)
  have hcalled (place : ℕ) (target : Node) (h : (n.targetsAmong names now)[place]? = some target) :=
    FanOut.holds_of_mem (hcount target.name) (mem_findings h t endings) (n.batchFor t names now).skipped
  have hdivides := FanOut.divides_collect (n.perm_findings t names now endings) hnames
  refine ⟨n.conclusion t names now endings, ⟨hdivides, ?_, ?_, hcalled, ?_, ?_⟩, ?_⟩
  · rw [conclusion, FanOut.skipped_collect]
    exact n.view.skippedNames_resolve names now
  · intro name hname hget
    exact FanOut.holds_of_mem (hcount name) (mem_findings_of_unknown hname hget) _
  · intro place target htarget outcome
    rw [conclusion, (hcalled place target htarget).succeeded_eq_some_iff, FanOut.brought_eq_ok_iff]
  · rw [conclusion, hdivides.allSucceeded_iff]
    simp only [List.mem_map, forall_exists_index, and_imp, forall_apply_eq_imp_iff₂]
  · intro order horder
    have hcompleted : (n.batchFor t names now).CompletedBy order := completedBy_batchFor.2 horder
    exact ⟨(snd_fanOutTo_eq_iff ht).2 ⟨hcompleted, rfl⟩, (fst_fanOutTo ht).2 hcompleted⟩

/-- A fan-out sends a peer no more requests than the list of targets names it.  What is reported under a name
is the last success and the last failure of what was found out about it; so for a peer that the list names
once, it is what this peer replied. -/
theorem fanOutTo_reports {t : Task} (ht : Task.ofJson? o payload = some t) (names : List String)
    (now : Instant) (endings : ℕ → Ending) (order : List ℕ) (peer : String) :
    ((n.fanOutTo o payload names now endings order).1.map (·.name)).count peer ≤
        (names.map n.view.reportedName).count peer ∧
      ∀ result, (n.fanOutTo o payload names now endings order).2 = .ok (some result) →
        (n.fanOutTo o payload names now endings order).1.Perm (n.targetsAmong names now) ∧
        result.succeeded[peer]? =
          ((FanOut.saidOf (n.findings t names now endings) peer).filterMap (·.toOption)).getLast? ∧
        result.failed[peer]? =
          ((FanOut.saidOf (n.findings t names now endings) peer).filterMap FanOut.failure?).getLast? ∧
        ((names.map n.view.reportedName).count peer ≤ 1 →
          (∀ place target, (n.targetsAmong names now)[place]? = some target → target.name = peer →
            result.Holds peer (FanOut.brought target t n.intervals.rpcTimeout (endings place))) ∧
          ¬ (peer ∈ result.succeeded ∧ peer ∈ result.failed)) := by
  refine ⟨count_fst_fanOutTo_le ht peer, fun result hresult => ?_⟩
  obtain ⟨hcompleted, rfl⟩ := (snd_fanOutTo_eq_iff ht).1 hresult
  obtain ⟨hsucceeded, hfailed⟩ := FanOut.getElem?_collect (n.findings t names now endings)
    (n.batchFor t names now).skipped peer
  refine ⟨(fst_fanOutTo ht).2 hcompleted, hsucceeded, hfailed, fun hcount => ?_⟩
  have honce := Nat.le_trans (n.count_findings_le t names now endings peer) hcount
  constructor
  · rintro place target htarget rfl
    exact FanOut.holds_of_mem honce (mem_findings htarget t endings) _
  · exact FanOut.not_mem_both honce _

end EndNode

/-! ### Two peers -/

namespace FanOut.Couple

/-- A node that knows two peers, and is registered with one of them. -/
def node : EndNode Unconfigured :=
  { Query.alone Query.asker ⟨⟩ with
    view.cluster.nodes := (Roster.empty.insert "b" Query.target).insert "c"
      (.new ⟨"c", "10.0.0.3", 5000, "c"⟩ 0) }

def task : Task := .addInbound ⟨"in", "vless", 443, .null⟩

def payload : Json :=
  .ofFields [("inbound", .ofFields [("tag", .text "in"), ("protocol", .text "vless"), ("port", .int 443),
    ("settings", .null)])]

/-- The peer carries out the task once. -/
def result (place : ℕ) : Except EngineError Outcome :=
  if place = 0 then .ok .done else .error (.inboundExists "in")

/-- The peer replies to all calls. -/
@[irreducible] def endings (place : ℕ) : Ending :=
  .answered (.ok ((Operation.replyTo .addInbound (result place)).close .node "t" "c" "b"
    (.operate .addInbound)))

lemma name_eq_of_get? (key : String) (known : Node) (h : node.view.cluster.nodes.get? key = some known) :
    known.name = key := by
  simp only [node, Query.alone, PeerView.new, Cluster.new, Roster.get?_insert, Roster.get?_empty] at h
  split_ifs at h with hc hb
  all_goals
    cases h
    assumption

lemma ofJson?_payload : Task.ofJson? .addInbound payload = some task := by decide +kernel

lemma brought_endings (place : ℕ) (rpcTimeout : Span) :
    brought Query.target task rpcTimeout (endings place) = arrival (result place) := by
  have hanswers : ∀ outcome, result place = .ok outcome →
      (Rpc.Body.ofOutcome outcome).Answers (.operate .addInbound) := by
    intro outcome h
    unfold result at h
    split_ifs at h
    cases h
    trivial
  have hportable : ((Operation.replyTo .addInbound (result place)).close .node Query.target.outToken "c" "b"
      (.operate .addInbound)).Portable := by
    unfold result
    split_ifs
    · exact Envelope.portable_close_iff.2 (by decide +kernel)
    · exact Envelope.portable_close_iff.2 (by decide +kernel)
  rw [endings, brought_answered]
  exact received_replyTo hanswers hportable

end FanOut.Couple

/-- One peer is called, one is skipped, and one name is not known. -/
theorem EndNode.fanOutTo_accounts_three :
    ∃ result : FanOut,
      (FanOut.Couple.node.fanOutTo .addInbound FanOut.Couple.payload ["b", "c", "q"] 0 FanOut.Couple.endings
        [0, 0]).2 = .ok (some result) ∧
      result.succeeded["b"]? = some .done ∧ result.skipped = ["c"] ∧
      result.failed["q"]? = some (.unknown "q") ∧ result.allSucceeded = false := by
  have hnames : (["b", "c", "q"].map FanOut.Couple.node.view.reportedName).Nodup := by
    rw [PeerView.map_reportedName FanOut.Couple.name_eq_of_get?]
    decide
  have htarget : (FanOut.Couple.node.targetsAmong ["b", "c", "q"] 0) = [FanOut.Query.target] := by
    decide +kernel
  obtain ⟨-, h⟩ := fanOutTo_accounts hnames 0 FanOut.Couple.endings
  obtain ⟨result, haccounts, hresult⟩ := h FanOut.Couple.task FanOut.Couple.ofJson?_payload
  have hplace : (FanOut.Couple.node.targetsAmong ["b", "c", "q"] 0)[0]? = some FanOut.Query.target := by
    rw [htarget]
    exact List.getElem?_cons_zero
  have hb := haccounts.called 0 FanOut.Query.target hplace
  have hq := haccounts.unknown "q" (by decide) (by decide +kernel)
  have hskipped : result.skipped = ["c"] := by
    rw [haccounts.skipped_eq]
    decide +kernel
  rw [FanOut.Couple.brought_endings] at hb
  refine ⟨result, (hresult [0, 0] ?_).1, hb.1, hskipped, hq.2, ?_⟩
  · rw [htarget]
    decide
  · simp [FanOut.allSucceeded, hskipped]

/-- What a peer replies that is named once is reported, though the list names another one twice. -/
theorem EndNode.fanOutTo_reports_once :
    let names := ["c", "b", "c"]
    let f := FanOut.Couple.node.fanOutTo .addInbound FanOut.Couple.payload names 0 FanOut.Couple.endings [0, 0]
    Task.ofJson? .addInbound FanOut.Couple.payload = some FanOut.Couple.task ∧
      (names.map FanOut.Couple.node.view.reportedName).count "b" ≤ 1 ∧
      ∃ result, f.2 = .ok (some result) ∧ result.succeeded["b"]? = some .done := by
  intro names f
  have hcount : (names.map FanOut.Couple.node.view.reportedName).count "b" ≤ 1 := by decide +kernel
  have htargets : FanOut.Couple.node.targetsAmong names 0 = [FanOut.Query.target] := by decide +kernel
  have hplace : (FanOut.Couple.node.targetsAmong names 0)[0]? = some FanOut.Query.target := by
    rw [htargets]
    exact List.getElem?_cons_zero
  have hcompleted : (FanOut.Couple.node.batchFor FanOut.Couple.task names 0).CompletedBy [0, 0] := by
    rw [completedBy_batchFor, htargets]
    decide
  have hresult : f.2 = .ok (some _) :=
    (snd_fanOutTo_eq_iff FanOut.Couple.ofJson?_payload).2 ⟨hcompleted, rfl⟩
  obtain ⟨-, hreports⟩ := fanOutTo_reports FanOut.Couple.ofJson?_payload names 0 FanOut.Couple.endings [0, 0]
    "b"
  obtain ⟨-, -, -, honce⟩ := hreports _ hresult
  have hb := (honce hcount).1 0 FanOut.Query.target hplace rfl
  rw [FanOut.Couple.brought_endings] at hb
  exact ⟨FanOut.Couple.ofJson?_payload, hcount, _, hresult, hb.1⟩

/-- A peer that is named twice is sent two requests.  It carries out the first one and rejects the second
one, and is reported to have succeeded and to have failed. -/
theorem EndNode.fanOutTo_twice :
    let f := FanOut.Couple.node.fanOutTo .addInbound FanOut.Couple.payload ["b", "b"] 0 FanOut.Couple.endings
      [0, 1, 0, 1]
    (f.1.map (·.name)).count "b" = 2 ∧
      ∃ result, f.2 = .ok (some result) ∧ "b" ∈ result.succeeded ∧ "b" ∈ result.failed := by
  intro f
  have htargets : FanOut.Couple.node.targetsAmong ["b", "b"] 0 =
      [FanOut.Query.target, FanOut.Query.target] := by
    decide +kernel
  have hplace : ∀ place < 2, (FanOut.Couple.node.targetsAmong ["b", "b"] 0)[place]? =
      some FanOut.Query.target := by
    rw [htargets]
    decide
  have hcompleted : (FanOut.Couple.node.batchFor FanOut.Couple.task ["b", "b"] 0).CompletedBy
      [0, 1, 0, 1] := by
    rw [completedBy_batchFor, htargets]
    decide
  have hsent : f.1.Perm [FanOut.Query.target, FanOut.Query.target] := by
    rw [← htargets]
    exact (fst_fanOutTo FanOut.Couple.ofJson?_payload).2 hcompleted
  have hresult : f.2 = .ok (some _) :=
    (snd_fanOutTo_eq_iff FanOut.Couple.ofJson?_payload).2 ⟨hcompleted, rfl⟩
  have hdone := mem_findings (hplace 0 (by decide)) FanOut.Couple.task FanOut.Couple.endings
  have hrejected := mem_findings (hplace 1 (by decide)) FanOut.Couple.task FanOut.Couple.endings
  rw [FanOut.Couple.brought_endings] at hdone hrejected
  refine ⟨?_, _, hresult, ?_, ?_⟩
  · rw [(hsent.map _).count_eq]
    decide
  · exact FanOut.mem_succeeded_collect.2 ⟨_, hdone⟩
  · exact FanOut.mem_failed_collect.2 ⟨_, hrejected⟩

end Flotilla
