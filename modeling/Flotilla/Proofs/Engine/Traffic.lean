import Flotilla.Proofs.Engine.Consistency

/-!
# Traffic counters

Traffic is counted under names, and queries report the counters whose names contain a pattern.  A query that
resets takes out of a counter just what it reports of it.  So whatever was counted was reported by a query
that resets, or it is still there: `MemoryEngine.counters_balance`.
-/

namespace Flotilla

namespace MemoryEngine

variable {e : MemoryEngine} {pattern name : String}

/-! ### Names that contain a pattern -/

/-- A pattern occurs just if it is a contiguous part. -/
lemma occursIn_iff_isInfix {p cs : List Char} : occursIn p cs = true ↔ p <:+: cs := by
  induction cs with
  | nil => simp [occursIn, List.infix_nil]
  | cons c cs ih => rw [occursIn, Bool.or_eq_true, List.isPrefixOf_iff_prefix, ih, List.infix_cons_iff]

/-- A name contains a pattern if the pattern stands somewhere in it. -/
lemma containsPattern_iff :
    containsPattern pattern name = true ↔ ∃ before after, name = before ++ pattern ++ after := by
  rw [containsPattern, occursIn_iff_isInfix]
  constructor
  · rintro ⟨before, after, h⟩
    refine ⟨.ofList before, .ofList after, String.toList_injective ?_⟩
    simp [String.toList_append, ← h]
  · rintro ⟨before, after, rfl⟩
    exact ⟨before.toList, after.toList, by simp [String.toList_append]⟩

/-! ### Reports -/

/-- A report holds the counters whose name contains the pattern, with their values. -/
lemma mem_statsMatching {s : Stat} :
    s ∈ e.statsMatching pattern ↔ e.stats[s.name]? = some s.value ∧ containsPattern pattern s.name = true := by
  simp only [statsMatching, List.mem_map, List.mem_filter]
  constructor
  · rintro ⟨⟨name, value⟩, ⟨hmem, hpattern⟩, rfl⟩
    exact ⟨Std.ExtTreeMap.mem_toList_iff_getElem?_eq_some.1 hmem, hpattern⟩
  · rintro ⟨hget, hpattern⟩
    exact ⟨(s.name, s.value), ⟨Std.ExtTreeMap.mem_toList_iff_getElem?_eq_some.2 hget, hpattern⟩, rfl⟩

/-- A report is in the order of the names, and no name is there twice. -/
lemma pairwise_statsMatching (e : MemoryEngine) (pattern : String) :
    (e.statsMatching pattern).Pairwise (·.name < ·.name) := by
  have hkeys : e.stats.toList.Pairwise (·.1 < ·.1) := by
    have hpairwise := e.stats.pairwise_keys
    rwa [← Std.ExtTreeMap.map_fst_toList_eq_keys, List.pairwise_map] at hpairwise
  rw [statsMatching, List.pairwise_map]
  exact hkeys.sublist List.filter_sublist

/-- A report says about a counter what it stands at, or nothing at all. -/
lemma filter_statsMatching (e : MemoryEngine) (pattern name : String) :
    (e.statsMatching pattern).filter (·.name = name) =
      if containsPattern pattern name then (e.stats[name]?.map (Stat.mk name)).toList else [] := by
  have hnodup : ((e.statsMatching pattern).filter (·.name = name)).Nodup := by
    have hne : (e.statsMatching pattern).Pairwise (· ≠ ·) := by
      refine (e.pairwise_statsMatching pattern).imp ?_
      rintro s _ hlt rfl
      exact String.lt_irrefl _ hlt
    exact hne.filter _
  have hmem (s : Stat) : s ∈ (e.statsMatching pattern).filter (·.name = name) ↔
      s ∈ if containsPattern pattern name then (e.stats[name]?.map (Stat.mk name)).toList else [] := by
    rw [List.mem_filter, mem_statsMatching, decide_eq_true_iff]
    constructor
    · rintro ⟨⟨hget, hpattern⟩, rfl⟩
      simp [hpattern, hget]
    · split_ifs with hpattern
      · intro h
        obtain ⟨value, hget, rfl⟩ := Option.map_eq_some_iff.1 (Option.mem_toList.1 h)
        exact ⟨⟨hget, hpattern⟩, rfl⟩
      · nofun
  have hperm := (List.perm_ext_iff_of_nodup hnodup ?_).2 hmem
  · split_ifs at hperm ⊢ with hpattern
    · cases hget : e.stats[name]? with
      | none => simpa [hget] using hperm
      | some value => simpa [hget] using hperm
    · exact hperm.eq_nil
  · split_ifs
    · cases e.stats[name]? <;> simp
    · exact List.nodup_nil

/-! ### Queries -/

lemma queryStats_eq (e : MemoryEngine) (pattern : String) (reset : Bool) :
    (e.queryStats pattern reset).2 = e.statsMatching pattern := rfl

/-- A query that resets leaves zero in the counters that it reports, and the others as they are. -/
lemma getElem?_stats_queryStats (e : MemoryEngine) (pattern name : String) :
    (e.queryStats pattern true).1.stats[name]? =
      if containsPattern pattern name then e.stats[name]?.map fun _ => 0 else e.stats[name]? := by
  rw [queryStats, if_pos rfl, Std.ExtTreeMap.getElem?_map]
  split_ifs
  · rfl
  · exact Option.map_id'

/-! ### What is counted and what is reported -/

/-- Where a counter stands; one that was never used stands at zero. -/
def counter (e : MemoryEngine) (name : String) : Int64 := e.stats.getD name 0

/-- What an event counts under a name. -/
def Event.counted (name : String) : Event → Int
  | .traffic other delta => if other = name then delta.toInt else 0
  | .task .. => 0

/-- What a report says about a counter, added up. -/
def total (name : String) (stats : List Stat) : Int := ((stats.filter (·.name = name)).map (·.value.toInt)).sum

/-- What comes of an event reports about a counter, if the event is a query that resets. -/
def collected (name : String) : Event × Except EngineError Outcome → Int
  | (.task (.getStats _ true) _, .ok (.stats stats)) => total name stats
  | _ => 0

def history (e : MemoryEngine) : List Event → List (Event × Except EngineError Outcome)
  | [] => []
  | event :: es => (event, (e.step event).2) :: history (e.step event).1 es

/-- Whatever is counted under a name, the counter stays in range. -/
def StaysInRange (name : String) : MemoryEngine → List Event → Prop
  | _, [] => True
  | e, event :: es => Word.fitsSigned ((e.counter name).toInt + event.counted name) = true ∧
      StaysInRange name (e.step event).1 es

instance decidableStaysInRange (name : String) :
    (e : MemoryEngine) → (es : List Event) → Decidable (StaysInRange name e es)
  | _, [] => inferInstanceAs (Decidable True)
  | e, event :: es => @instDecidableAnd _ _ _ (decidableStaysInRange name (e.step event).1 es)

/-! ### What an event does to a counter -/

@[simp] lemma counter_empty (name : String) : empty.counter name = 0 := rfl

lemma counter_eq (e : MemoryEngine) (name : String) : e.counter name = e.stats[name]?.getD 0 :=
  Std.ExtTreeMap.getD_eq_getD_getElem?

/-- Traffic is added to one counter only. -/
lemma counter_recordTraffic (e : MemoryEngine) (other name : String) (delta : Int64) :
    (e.recordTraffic other delta).counter name =
      if other = name then e.counter name + delta else e.counter name := by
  simp only [counter, recordTraffic, Std.ExtTreeMap.getD_insert, Std.LawfulEqCmp.compare_eq_iff_eq]
  split_ifs with hname
  · rw [hname]
  · rfl

/-- A query that resets takes out of a counter what it reports of it. -/
lemma total_add_counter_queryStats (e : MemoryEngine) (pattern name : String) :
    total name (e.queryStats pattern true).2 + ((e.queryStats pattern true).1.counter name).toInt =
      (e.counter name).toInt := by
  rw [queryStats_eq, total, filter_statsMatching, counter_eq, counter_eq, getElem?_stats_queryStats]
  split_ifs with hpattern
  · cases e.stats[name]? <;> simp
  · simp

lemma stats_foldl_putUser (e : MemoryEngine) (users : List User) : (users.foldl putUser e).stats = e.stats := by
  induction users generalizing e with
  | nil => rfl
  | cons u users ih => exact ih (e.putUser u)

/-- All tasks but a query that resets leave the counters alone. -/
lemma stats_run (e : MemoryEngine) (now : Instant) {t : Task} (h : ∀ pattern, t ≠ .getStats pattern true) :
    (t.run now e).1.stats = e.stats := by
  cases t with
  | addUsers users =>
    simp only [run_addUsers, Effect.giving, addUsers]
    split
    · rfl
    · exact e.stats_foldl_putUser users
  | deleteUsers tag emails =>
    simp only [run_deleteUsers, Effect.giving, removeUsers]
    split <;> rfl
  | getUsers tag => rfl
  | addInbound i =>
    simp only [run_addInbound, Effect.giving, addInbound]
    split_ifs <;> rfl
  | deleteInbound tag =>
    simp only [run_deleteInbound, Effect.giving, deleteInbound]
    split_ifs <;> rfl
  | getStats pattern reset =>
    cases reset with
    | false => rfl
    | true => exact absurd rfl (h pattern)
  | obtainCert domain =>
    rw [run_obtainCert]
    split_ifs <;> rfl
  | getCerts domain => rw [run_getCerts]

/-- What is counted in an event is reported by it, or it is in the counter afterwards. -/
lemma counter_step {event : Event} (h : Word.fitsSigned ((e.counter name).toInt + event.counted name) = true) :
    (e.counter name).toInt + event.counted name =
      collected name (event, (e.step event).2) + ((e.step event).1.counter name).toInt := by
  cases event with
  | traffic other delta =>
    rw [Word.fitsSigned_iff, Event.counted, Word.minSigned, Word.maxSigned] at h
    have hcollected : collected name (.traffic other delta, (e.step (.traffic other delta)).2) = 0 := rfl
    rw [hcollected, Int.zero_add, Event.counted, step, counter_recordTraffic]
    split_ifs at h ⊢ with hname
    · rw [Int64.toInt_add, Int.bmod_eq_of_le] <;> omega
    · exact Int.add_zero _
  | task t now =>
    rw [Event.counted, Int.add_zero]
    by_cases hquery : ∃ pattern, t = .getStats pattern true
    · obtain ⟨pattern, rfl⟩ := hquery
      exact (e.total_add_counter_queryStats pattern name).symm
    · have hstats := e.stats_run now fun pattern heq => hquery ⟨pattern, heq⟩
      have hcollected : collected name (.task t now, (e.step (.task t now)).2) = 0 := by
        unfold collected
        split
        · rename_i heq
          cases heq
          exact absurd ⟨_, rfl⟩ hquery
        · rfl
      rw [hcollected, Int.zero_add, counter, counter, step, hstats]

/-- What is counted in a run is reported in it, or it is in the counter at the end. -/
lemma counter_run {es : List Event} (h : StaysInRange name e es) :
    (e.counter name).toInt + (es.map (Event.counted name)).sum =
      ((e.history es).map (collected name)).sum + ((e.run es).counter name).toInt := by
  induction es generalizing e with
  | nil => simp [history, run]
  | cons event es ih =>
    obtain ⟨hevent, hes⟩ := h
    have hstep := counter_step hevent
    have hrun := ih hes
    rw [show e.run (event :: es) = (e.step event).1.run es from rfl, history, List.map_cons, List.map_cons,
      List.sum_cons, List.sum_cons]
    omega

/-- Traffic is neither lost nor reported twice: where a counter stood and all that was counted since is what
queries that reset reported of it and where it stands, as long as the counter stays in range.  A query reports
the counters whose names contain its pattern, each once and in the order of the names, with their values.  It
leaves everything as it was unless it resets, and then it leaves zero in the counters that it reports and
nothing else changes. -/
theorem counters_balance (e : MemoryEngine) :
    (∀ (es : List Event) (name : String), StaysInRange name e es →
      (e.counter name).toInt + (es.map (Event.counted name)).sum =
        ((e.history es).map (collected name)).sum + ((e.run es).counter name).toInt) ∧
    ∀ (pattern : String) (reset : Bool) (now : Instant), ∃ e' report,
      e.step (.task (.getStats pattern reset) now) = (e', .ok (.stats report)) ∧
      report.Pairwise (·.name < ·.name) ∧
      (∀ s, s ∈ report ↔
        e.stats[s.name]? = some s.value ∧ ∃ before after, s.name = before ++ pattern ++ after) ∧
      (reset = false → e' = e) ∧
      (reset = true → e' = { e with stats := e'.stats } ∧
        ∀ name : String, e'.stats[name]? = if name ∈ report.map (·.name) then some 0 else e.stats[name]?) := by
  refine ⟨fun es name h => counter_run h, fun pattern reset now => ?_⟩
  refine ⟨(e.queryStats pattern reset).1, e.statsMatching pattern, rfl, e.pairwise_statsMatching pattern,
    fun s => ?_, ?_, ?_⟩
  · rw [mem_statsMatching, containsPattern_iff]
  · rintro rfl
    rfl
  · rintro rfl
    refine ⟨rfl, fun name => ?_⟩
    have hmem : name ∈ (e.statsMatching pattern).map (·.name) ↔
        containsPattern pattern name = true ∧ ∃ value, e.stats[name]? = some value := by
      rw [List.mem_map]
      constructor
      · rintro ⟨s, hs, rfl⟩
        obtain ⟨hget, hpattern⟩ := mem_statsMatching.1 hs
        exact ⟨hpattern, s.value, hget⟩
      · rintro ⟨hpattern, value, hget⟩
        exact ⟨⟨name, value⟩, mem_statsMatching.2 ⟨hget, hpattern⟩, rfl⟩
    rw [getElem?_stats_queryStats]
    simp only [hmem]
    cases e.stats[name]? <;> simp

/-- The patterns of three queries match the same counter; the first and the last one reset, and together they
report what was counted but for what came after. -/
theorem counters_balance_overlapping :
    let name := "user>>>a>>>up"
    let es : List Event :=
      [.traffic name 10, .traffic "in>>>up" 7, .task (.getStats "user" true) 0, .traffic name (-3),
        .task (.getStats "up" false) 1, .task (.getStats "" true) 2, .traffic name 4]
    StaysInRange name empty es ∧ (es.map (Event.counted name)).sum = 11 ∧
      ((empty.run es).counter name).toInt = 4 ∧ ((empty.history es).map (collected name)).sum = 7 := by
  intro name es
  have hrange : StaysInRange name empty es := by decide +kernel
  have hcounted : (es.map (Event.counted name)).sum = 11 := by decide +kernel
  have hleft : ((empty.run es).counter name).toInt = 4 := by decide +kernel
  have hbalance := (counters_balance empty).1 es name hrange
  rw [counter_empty, Int64.toInt_zero, hcounted, hleft] at hbalance
  exact ⟨hrange, hcounted, hleft, by omega⟩

end MemoryEngine

end Flotilla
