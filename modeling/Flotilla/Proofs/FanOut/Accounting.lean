import Flotilla.Proofs.FanOut.Turns

/-!
# What a fan-out accounts for

What is reported under a name is the last success and the last failure of what was said of it.  So a name that
only one thing was said of is reported with this, and names that are different are not mixed up.
-/

namespace Flotilla

open Rpc (Reply)

namespace FanOut

variable {entries : List (String × Except TargetFailure Outcome)} {skipped : List String} {name : String}

/-! ### What is said about a name -/

/-- What a list of results says about a name, in order. -/
def saidOf (entries : List (String × Except TargetFailure Outcome)) (name : String) :
    List (Except TargetFailure Outcome) :=
  (entries.filter (·.1 == name)).map (·.2)

def failure? : Except TargetFailure Outcome → Option TargetFailure
  | .ok _ => none
  | .error failure => some failure

/-- What is reported under a name is the last success and the last failure. -/
lemma getElem?_collect (entries : List (String × Except TargetFailure Outcome)) (skipped : List String)
    (name : String) :
    (collect entries skipped).succeeded[name]? = ((saidOf entries name).filterMap (·.toOption)).getLast? ∧
      (collect entries skipped).failed[name]? = ((saidOf entries name).filterMap failure?).getLast? := by
  induction entries using List.reverseRecOn with
  | nil => simp [collect, saidOf]
  | append_singleton entries entry ih =>
    obtain ⟨key, result⟩ := entry
    have hcollect : collect (entries ++ [(key, result)]) skipped =
        (collect entries skipped).enter key result := by
      rw [collect, List.foldl_append]
      rfl
    rw [hcollect]
    by_cases hkey : key = name
    · have hsaid : saidOf (entries ++ [(key, result)]) name = saidOf entries name ++ [result] := by
        simp [saidOf, hkey]
      rw [hsaid]
      cases result with
      | ok outcome => simp [enter, hkey, failure?, Except.toOption, ih.2]
      | error failure => simp [enter, hkey, failure?, Except.toOption, ih.1]
    · have hsaid : saidOf (entries ++ [(key, result)]) name = saidOf entries name := by
        simp [saidOf, hkey]
      rw [hsaid]
      cases result with
      | ok outcome => simp [enter, Std.ExtTreeMap.getElem?_insert, hkey, ih]
      | error failure => simp [enter, Std.ExtTreeMap.getElem?_insert, hkey, ih]

/-- A result that is the only one under its name is what is reported there. -/
lemma holds_of_mem {result : Except TargetFailure Outcome}
    (hcount : (entries.map (·.1)).count name ≤ 1) (h : (name, result) ∈ entries) (skipped : List String) :
    (collect entries skipped).Holds name result := by
  obtain ⟨before, after, rfl⟩ := List.append_of_mem h
  rw [List.map_append, List.map_cons, List.count_append, List.count_cons_self] at hcount
  have hne (rest : List (String × Except TargetFailure Outcome)) (hrest : (rest.map (·.1)).count name = 0) :
      ∀ r ∈ rest, r.1 ≠ name := by
    rintro r hr rfl
    exact List.count_eq_zero.1 hrest (List.mem_map_of_mem hr)
  exact holds_collect (hne before (by omega)) (hne after (by omega))

lemma mem_saidOf {result : Except TargetFailure Outcome} :
    result ∈ saidOf entries name ↔ (name, result) ∈ entries := by
  simp only [saidOf, List.mem_map, List.mem_filter, beq_iff_eq]
  constructor
  · rintro ⟨entry, ⟨hentry, rfl⟩, rfl⟩
    exact hentry
  · exact fun hentry => ⟨_, ⟨hentry, rfl⟩, rfl⟩

lemma isSome_getLast?_filterMap {α β : Type} {f : α → Option β} {l : List α} :
    (l.filterMap f).getLast?.isSome = true ↔ ∃ a ∈ l, (f a).isSome = true := by
  rw [List.getLast?_isSome, Ne, List.filterMap_eq_nil_iff]
  simp [Option.isSome_iff_ne_none]

/-- A name is among those that succeeded if one success was said of it. -/
lemma mem_succeeded_collect :
    name ∈ (collect entries skipped).succeeded ↔ ∃ outcome, (name, .ok outcome) ∈ entries := by
  rw [Std.ExtTreeMap.mem_iff_isSome_getElem?, (getElem?_collect entries skipped name).1,
    isSome_getLast?_filterMap]
  simp only [← mem_saidOf]
  constructor
  · rintro ⟨failure | outcome, hsaid, hsome⟩
    · cases hsome
    · exact ⟨outcome, hsaid⟩
  · exact fun ⟨outcome, hsaid⟩ => ⟨_, hsaid, rfl⟩

/-- A name is among those that failed if one failure was said of it. -/
lemma mem_failed_collect :
    name ∈ (collect entries skipped).failed ↔ ∃ failure, (name, .error failure) ∈ entries := by
  rw [Std.ExtTreeMap.mem_iff_isSome_getElem?, (getElem?_collect entries skipped name).2,
    isSome_getLast?_filterMap]
  simp only [← mem_saidOf]
  constructor
  · rintro ⟨failure | outcome, hsaid, hsome⟩
    · exact ⟨failure, hsaid⟩
    · cases hsome
  · exact fun ⟨failure, hsaid⟩ => ⟨_, hsaid, rfl⟩

/-- Nothing is reported under a name that nothing was said about. -/
lemma not_mem_collect (h : name ∉ entries.map (·.1)) (skipped : List String) :
    name ∉ (collect entries skipped).succeeded ∧ name ∉ (collect entries skipped).failed := by
  rw [mem_succeeded_collect, mem_failed_collect]
  exact ⟨fun ⟨_, hentry⟩ => h (List.mem_map_of_mem hentry), fun ⟨_, hentry⟩ => h (List.mem_map_of_mem hentry)⟩

/-- Success and failure are not reported both, unless two things were said. -/
lemma not_mem_both (hcount : (entries.map (·.1)).count name ≤ 1) (skipped : List String) :
    ¬ (name ∈ (collect entries skipped).succeeded ∧ name ∈ (collect entries skipped).failed) := by
  rintro ⟨hsucceeded, hfailed⟩
  by_cases hmem : name ∈ entries.map (·.1)
  · obtain ⟨⟨name, result⟩, hentry, rfl⟩ := List.mem_map.1 hmem
    have hholds := holds_of_mem hcount hentry skipped
    rw [Std.ExtTreeMap.mem_iff_isSome_getElem?] at hsucceeded hfailed
    cases result with
    | ok outcome => simp [hholds.2] at hfailed
    | error failure => simp [hholds.1] at hsucceeded
  · exact (not_mem_collect hmem skipped).1 hsucceeded

/-- A call succeeds if and only if it is answered in an envelope that opens under the token of the target,
by a reply that reports no error. -/
lemma brought_eq_ok_iff {target : Node} {t : Task} {rpcTimeout : Span} {ending : Ending}
    {outcome : Outcome} :
    brought target t rpcTimeout ending = .ok outcome ↔
      ∃ e r, ending = .answered (.ok e) ∧
        Reply.open? target.outToken (.operate t.operation) e = .ok r ∧ r.code = 0 ∧
          outcome = r.body.toOutcome := by
  cases ending with
  | timedOut | died => simp [brought, Ending.reply, Rpc.reply, bind, Except.bind, Except.mapError]
  | answered a =>
    cases a with
    | error s => simp [brought, Ending.reply, Rpc.reply, bind, Except.bind, Except.mapError]
    | ok e =>
      cases hopen : Reply.open? target.outToken (.operate t.operation) e with
      | error fault =>
        simp [brought, Ending.reply, Rpc.reply, bind, Except.bind, Except.mapError, hopen]
      | ok r =>
        by_cases hcode : r.code = 0
        · simp [brought, Ending.reply, Rpc.reply, bind, Except.bind, Except.mapError, hopen,
            FanOut.outcome, Reply.accept, hcode, Except.map, eq_comm]
        · simp [brought, Ending.reply, Rpc.reply, bind, Except.bind, Except.mapError, hopen,
            FanOut.outcome, Reply.accept, hcode, Except.map]

lemma brought_answered (target : Node) (t : Task) (rpcTimeout : Span) (a : Rpc.Answer) :
    brought target t rpcTimeout (.answered a) = received target t.operation rpcTimeout (some a) := by
  rw [brought, Ending.reply, received]
  cases Rpc.reply target.outToken (.operate t.operation) rpcTimeout (some a) with
  | error fault => rfl
  | ok r => rfl

/-! ### The names in a batch -/

namespace Batch

variable {b : Batch} {rpcTimeout : Span} {endings : ℕ → Ending}

/-- All that is found out, name by name: what the calls bring, and which names are not known. -/
def findings (b : Batch) (rpcTimeout : Span) (endings : ℕ → Ending) :
    List (String × Except TargetFailure Outcome) :=
  b.results rpcTimeout endings ++ b.unknown.map fun name => (name, .error (.unknown name))

/-- The conclusion of a batch collects what the calls found. -/
lemma conclusion_eq (b : Batch) (rpcTimeout : Span) (endings : ℕ → Ending) :
    b.conclusion rpcTimeout endings = collect (b.findings rpcTimeout endings) b.skipped := by
  rw [conclusion, findings, collect, collect, List.foldl_append, List.foldl_map]
  rfl

lemma map_fst_findings :
    (b.findings rpcTimeout endings).map (·.1) = b.calls.map (·.target.name) ++ b.unknown := by
  have hresults : (b.results rpcTimeout endings).map (·.1) = b.calls.map (·.target.name) := by
    apply List.ext_getElem
    · simp [results]
    · intro place _ _
      simp [results]
  have hunknown : (b.unknown.map fun name => (name, Except.error (.unknown name))).map
      (fun entry : String × Except TargetFailure Outcome => entry.1) = b.unknown := by
    rw [List.map_map]
    exact List.map_id _
  rw [findings, List.map_append, hresults, hunknown]

/-- Each call contributes what its own ending brought. -/
lemma mem_findings_of_call {place : ℕ} {c : Call} (h : b.calls[place]? = some c) :
    (c.target.name, brought c.target b.task rpcTimeout (endings place)) ∈
      b.findings rpcTimeout endings := by
  apply List.mem_append_left
  apply List.mem_of_getElem? (i := place)
  rw [results, List.getElem?_mapIdx, h]
  rfl

end Batch

/-! ### The parts of a result -/

inductive Part where
  | succeeded
  | failed
  | skipped

def Has (f : FanOut) (name : String) : Part → Prop
  | .succeeded => name ∈ f.succeeded
  | .failed => name ∈ f.failed
  | .skipped => name ∈ f.skipped

/-- Every name of a list is in exactly one part of a result, and no other name is in any. -/
structure Divides (f : FanOut) (listed : List String) : Prop where
  existsUnique_has : ∀ name ∈ listed, ∃! part, f.Has name part
  mem_of_has : ∀ name part, f.Has name part → name ∈ listed

/-- All has succeeded just if every listed name has. -/
lemma Divides.allSucceeded_iff {f : FanOut} {listed : List String} (h : f.Divides listed) :
    f.allSucceeded = true ↔ ∀ name ∈ listed, name ∈ f.succeeded := by
  rw [allSucceeded, Bool.and_eq_true, Std.ExtTreeMap.isEmpty_iff, List.isEmpty_iff]
  constructor
  · rintro ⟨hfailed, hskipped⟩ name hname
    obtain ⟨part, hpart, -⟩ := h.existsUnique_has name hname
    cases part with
    | succeeded => exact hpart
    | failed => simp [Has, hfailed] at hpart
    | skipped => simp [Has, hskipped] at hpart
  · intro hall
    have honly : ∀ name part, f.Has name part → part = .succeeded := by
      intro name part hpart
      have hname := h.mem_of_has name part hpart
      exact (h.existsUnique_has name hname).unique hpart (hall name hname)
    constructor
    · apply Std.ExtTreeMap.eq_empty_iff_forall_not_mem.2
      intro name hname
      cases honly name .failed hname
    · apply List.eq_nil_iff_forall_not_mem.2
      intro name hname
      cases honly name .skipped hname

/-- A target that was not skipped is in one part of the result, and in no other. -/
lemma Holds.existsUnique_has {f : FanOut} {name : String} {result : Except TargetFailure Outcome}
    (h : f.Holds name result) (hskipped : name ∉ f.skipped) : ∃! part, f.Has name part := by
  cases result with
  | ok outcome =>
    obtain ⟨hsucceeded, hfailed⟩ := h
    refine ⟨.succeeded, Std.ExtTreeMap.mem_iff_isSome_getElem?.2 (by rw [hsucceeded]; rfl), ?_⟩
    intro part hpart
    cases part with
    | succeeded => rfl
    | failed => simp [Has, Std.ExtTreeMap.mem_iff_isSome_getElem?, hfailed] at hpart
    | skipped => exact absurd hpart hskipped
  | error failure =>
    obtain ⟨hsucceeded, hfailed⟩ := h
    refine ⟨.failed, Std.ExtTreeMap.mem_iff_isSome_getElem?.2 (by rw [hfailed]; rfl), ?_⟩
    intro part hpart
    cases part with
    | succeeded => simp [Has, Std.ExtTreeMap.mem_iff_isSome_getElem?, hsucceeded] at hpart
    | failed => rfl
    | skipped => exact absurd hpart hskipped

variable {entries : List (String × Except TargetFailure Outcome)} {skipped : List String}

/-- Names that are different are not mixed up. -/
lemma divides_collect {listed : List String} (hperm : (entries.map (·.1) ++ skipped).Perm listed)
    (hnodup : listed.Nodup) : (collect entries skipped).Divides listed := by
  have hskipped : (collect entries skipped).skipped = skipped := skipped_collect entries skipped
  obtain ⟨hentries, -, hdisjoint⟩ := List.nodup_append.1 (hperm.nodup_iff.2 hnodup)
  constructor
  · intro name hname
    rcases List.mem_append.1 (hperm.mem_iff.2 hname) with hmem | hmem
    · obtain ⟨⟨name, result⟩, hentry, rfl⟩ := List.mem_map.1 hmem
      have hholds : (collect entries skipped).Holds name result :=
        holds_of_mem (List.nodup_iff_count_le_one.1 hentries name) hentry skipped
      apply hholds.existsUnique_has
      rw [hskipped]
      exact fun hskip => hdisjoint name hmem name hskip rfl
    · have hnone : name ∉ entries.map (·.1) := fun hentry => hdisjoint name hentry name hmem rfl
      obtain ⟨hsucceeded, hfailed⟩ := not_mem_collect hnone skipped
      have hskip : (collect entries skipped).Has name .skipped := by
        rw [Has, hskipped]
        exact hmem
      refine ⟨.skipped, hskip, ?_⟩
      intro part hpart
      cases part with
      | succeeded => exact absurd hpart hsucceeded
      | failed => exact absurd hpart hfailed
      | skipped => rfl
  · intro name part hpart
    apply hperm.mem_iff.1
    rw [List.mem_append]
    by_cases hmem : name ∈ entries.map (·.1)
    · exact .inl hmem
    · obtain ⟨hsucceeded, hfailed⟩ := not_mem_collect hmem skipped
      cases part with
      | succeeded => exact absurd hpart hsucceeded
      | failed => exact absurd hpart hfailed
      | skipped => exact .inr (hskipped ▸ hpart)

namespace Batch

variable {t : Task} {known : List Node} {unknown : List String} {now : Instant} {rpcTimeout : Span}
  {endings : ℕ → Ending}

lemma map_target_start : (start t known unknown now).calls.map (·.target) = called known now := by
  rw [start, List.map_map]
  exact List.map_id _

/-- Every target is called or skipped. -/
lemma perm_start :
    (((start t known unknown now).findings rpcTimeout endings).map (·.1) ++
      (start t known unknown now).skipped).Perm (known.map (·.name) ++ unknown) := by
  have hcalls : (start t known unknown now).calls.map (·.target.name) = (called known now).map (·.name) := by
    rw [← map_target_start (t := t), List.map_map]
    rfl
  have hfilter : ((called known now).map (·.name) ++ skippedNames known now).Perm (known.map (·.name)) := by
    rw [called, skippedNames, ← List.map_append]
    exact (List.filter_append_perm (isCalled now) known).map _
  rw [map_fst_findings, hcalls]
  have hunknown : (start t known unknown now).unknown = unknown := rfl
  have hskipped : (start t known unknown now).skipped = skippedNames known now := rfl
  rw [hunknown, hskipped, List.append_assoc]
  refine (List.Perm.append_left _ List.perm_append_comm).trans ?_
  rw [← List.append_assoc]
  exact hfilter.append_right _

end Batch

end FanOut

end Flotilla
