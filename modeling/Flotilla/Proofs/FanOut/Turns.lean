import Mathlib.Data.List.Nodup
import Mathlib.Data.List.Perm.Subperm
import Flotilla.Proofs.FanOut.Remote

/-!
# Fan-outs under way

The calls of a fan-out are under way at the same time and take turns: at its first turn a call is made, and
at the next one it ends.  The limit on the calls in flight only puts turns off.  Who is sent a request, and
what the fan-out results in, does not depend on the order of the turns.
-/

namespace Flotilla.FanOut

variable {b : Batch} {rpcTimeout : Span} {endings : ℕ → Ending} {order : List ℕ}

/-! ### Turns -/

/-- A fan-out under way, and the places of the calls that have been made, in order. -/
structure Underway where
  batch : Batch
  made : List ℕ

namespace Underway

def start (b : Batch) : Underway := ⟨b, []⟩

/-- A call takes its turn: it is made, or it ends in its own way. -/
def turn (rpcTimeout : Span) (endings : ℕ → Ending) (u : Underway) (place : ℕ) : Underway :=
  if place ∈ u.made then { u with batch := u.batch.finish rpcTimeout place (endings place) }
  else if place < u.batch.calls.length then { u with made := u.made ++ [place] }
  else u

def play (rpcTimeout : Span) (endings : ℕ → Ending) (u : Underway) (order : List ℕ) : Underway :=
  order.foldl (turn rpcTimeout endings) u

/-- The targets that were sent a request, in order. -/
def sent (u : Underway) : List Node := (u.made.filterMap (u.batch.calls[·]?)).map (·.target)

end Underway

namespace Batch

/-- Every call has had the turns that it needs. -/
def CompletedBy (b : Batch) (order : List ℕ) : Prop := ∀ place < b.calls.length, 2 ≤ order.count place

/-- The batch after the calls have taken turns. -/
def after (b : Batch) (rpcTimeout : Span) (endings : ℕ → Ending) (order : List ℕ) : Batch :=
  { b with calls := b.calls.mapIdx fun place c =>
    if 2 ≤ order.count place then
      { c with result := some (brought c.target b.task rpcTimeout (endings place)) }
    else c }

/-- What the calls bring, under the names of their targets. -/
def results (b : Batch) (rpcTimeout : Span) (endings : ℕ → Ending) :
    List (String × Except TargetFailure Outcome) :=
  b.calls.mapIdx fun place c => (c.target.name, brought c.target b.task rpcTimeout (endings place))

/-- What the fan-out results in when all calls have ended. -/
def conclusion (b : Batch) (rpcTimeout : Span) (endings : ℕ → Ending) : FanOut :=
  (collect (b.results rpcTimeout endings) b.skipped).enterUnknown b.unknown

@[simp] lemma length_calls_after :
    (b.after rpcTimeout endings order).calls.length = b.calls.length :=
  List.length_mapIdx

/-- The targets of a batch do not change. -/
lemma map_target_after :
    (b.after rpcTimeout endings order).calls.map (·.target) = b.calls.map (·.target) := by
  apply List.ext_getElem?
  intro place
  simp only [after, List.getElem?_map, List.getElem?_mapIdx]
  cases b.calls[place]? with
  | none => rfl
  | some c =>
    simp only [Option.map_some]
    split_ifs <;> rfl

/-- It matters only which calls have had their turns. -/
lemma after_congr {order' : List ℕ}
    (h : ∀ place < b.calls.length, 2 ≤ order.count place ↔ 2 ≤ order'.count place) :
    b.after rpcTimeout endings order = b.after rpcTimeout endings order' := by
  have hcalls : (b.after rpcTimeout endings order).calls = (b.after rpcTimeout endings order').calls := by
    apply List.ext_getElem
    · simp
    · intro place hplace _
      rw [length_calls_after] at hplace
      simp only [after, List.getElem_mapIdx, h place hplace]
  exact congrArg (fun calls => { b with calls }) hcalls

lemma after_nil : b.after rpcTimeout endings [] = b := by
  have hcalls : (b.after rpcTimeout endings []).calls = b.calls := by
    apply List.ext_getElem
    · simp
    · intro place _ _
      simp [after]
  exact congrArg (fun calls => { b with calls }) hcalls

/-- By its first turn a call does not end. -/
lemma after_append_of_not_mem {place : ℕ} (h : place ∉ order) :
    b.after rpcTimeout endings order = b.after rpcTimeout endings (order ++ [place]) := by
  apply after_congr
  intro place' _
  rw [List.count_append, List.count_singleton]
  split_ifs with heq
  · rw [beq_iff_eq] at heq
    subst heq
    rw [List.count_eq_zero_of_not_mem h]
    omega
  · rw [Nat.add_zero]

/-- A turn of nobody changes nothing. -/
lemma after_append_of_le {place : ℕ} (h : b.calls.length ≤ place) :
    b.after rpcTimeout endings order = b.after rpcTimeout endings (order ++ [place]) := by
  apply after_congr
  intro place' hplace'
  have hne : place ≠ place' := Nat.ne_of_gt (Nat.lt_of_lt_of_le hplace' h)
  rw [List.count_append, List.count_singleton, if_neg (by simpa using hne), Nat.add_zero]

/-- The second turn of a call makes it end, and so does every later one. -/
lemma finish_after {place : ℕ} (h : place ∈ order) :
    (b.after rpcTimeout endings order).finish rpcTimeout place (endings place) =
      b.after rpcTimeout endings (order ++ [place]) := by
  have hcalls : ((b.after rpcTimeout endings order).finish rpcTimeout place (endings place)).calls =
      (b.after rpcTimeout endings (order ++ [place])).calls := by
    apply List.ext_getElem
    · simp [finish]
    · intro place' _ _
      simp only [finish, after, List.getElem_modify, List.getElem_mapIdx, List.count_append]
      by_cases hplace : place = place'
      · subst hplace
        have hpos : 0 < order.count place := List.count_pos_iff.2 h
        have hcount : 2 ≤ order.count place + [place].count place := by
          rw [List.count_singleton_self]
          omega
        rw [if_pos rfl, if_pos hcount]
        split_ifs <;> rfl
      · have hcount : [place].count place' = 0 := by simpa [List.count_singleton] using hplace
        rw [if_neg hplace, hcount, Nat.add_zero]
  exact congrArg (fun calls => { b with calls }) hcalls

end Batch

namespace Underway

/-- What has become of a fan-out by some turns. -/
structure After (b : Batch) (rpcTimeout : Span) (endings : ℕ → Ending) (order : List ℕ) (u : Underway) :
    Prop where
  batch_eq : u.batch = b.after rpcTimeout endings order
  mem_made_iff : ∀ place, place ∈ u.made ↔ place ∈ order ∧ place < b.calls.length
  nodup_made : u.made.Nodup

/-- Turn by turn, what has become of a fan-out is what its order of turns says. -/
lemma After.turn {u : Underway} (h : After b rpcTimeout endings order u) (place : ℕ) :
    After b rpcTimeout endings (order ++ [place]) (u.turn rpcTimeout endings place) := by
  have hlength : u.batch.calls.length = b.calls.length := by rw [h.batch_eq, Batch.length_calls_after]
  rw [Underway.turn, hlength]
  split_ifs with hmade hplace
  · obtain ⟨horder, -⟩ := (h.mem_made_iff place).1 hmade
    refine ⟨?_, ?_, h.nodup_made⟩
    · rw [h.batch_eq, Batch.finish_after horder]
    · intro place'
      rw [h.mem_made_iff, List.mem_append, List.mem_singleton]
      grind
  · have horder : place ∉ order := fun horder => hmade ((h.mem_made_iff place).2 ⟨horder, hplace⟩)
    refine ⟨?_, ?_, ?_⟩
    · rw [h.batch_eq]
      exact Batch.after_append_of_not_mem horder
    · intro place'
      rw [List.mem_append, List.mem_append, h.mem_made_iff, List.mem_singleton]
      grind
    · rw [List.nodup_append]
      refine ⟨h.nodup_made, List.nodup_singleton place, ?_⟩
      rintro place' hplace' other hother rfl
      exact hmade (List.mem_singleton.1 hother ▸ hplace')
  · refine ⟨?_, ?_, h.nodup_made⟩
    · rw [h.batch_eq]
      exact Batch.after_append_of_le (Nat.not_lt.1 hplace)
    · intro place'
      rw [h.mem_made_iff, List.mem_append, List.mem_singleton]
      grind

/-- What becomes of a fan-out depends on the number of turns that each call has had. -/
theorem after_play (b : Batch) (rpcTimeout : Span) (endings : ℕ → Ending) (order : List ℕ) :
    After b rpcTimeout endings order ((start b).play rpcTimeout endings order) := by
  induction order using List.reverseRecOn with
  | nil => exact ⟨Batch.after_nil.symm, by simp [play, start], List.nodup_nil⟩
  | append_singleton order place ih =>
    rw [play, List.foldl_append]
    exact ih.turn place

/-! ### Requests -/

lemma filterMap_getElem?_range {α : Type} (l : List α) :
    (List.range l.length).filterMap (l[·]?) = l := by
  induction l with
  | nil => rfl
  | cons a l ih =>
    rw [List.length_cons, List.range_succ_eq_map, List.filterMap_cons, List.filterMap_map]
    simp only [List.getElem?_cons_zero]
    exact congrArg (a :: ·) ih

variable {u : Underway}

/-- The targets that were sent a request are those of the calls that were made. -/
lemma After.sent_eq (h : After b rpcTimeout endings order u) :
    u.sent = u.made.filterMap ((b.calls.map (·.target))[·]?) := by
  have htargets : u.batch.calls.map (·.target) = b.calls.map (·.target) := by
    rw [h.batch_eq, Batch.map_target_after]
  rw [sent, List.map_filterMap, ← htargets]
  simp only [List.getElem?_map]

/-- No call is made twice. -/
lemma After.sent_subperm (h : After b rpcTimeout endings order u) :
    u.sent.Subperm (b.calls.map (·.target)) := by
  have hrange : u.made ⊆ List.range b.calls.length := by
    intro place hplace
    exact List.mem_range.2 ((h.mem_made_iff place).1 hplace).2
  obtain ⟨places, hperm, hsublist⟩ := List.subperm_of_subset h.nodup_made hrange
  have hall := filterMap_getElem?_range (b.calls.map (·.target))
  rw [List.length_map] at hall
  have hplaces := hsublist.filterMap ((b.calls.map (·.target))[·]?)
  rw [hall] at hplaces
  rw [h.sent_eq]
  exact ⟨_, hperm.filterMap _, hplaces⟩

/-- Once all calls have ended, each of them has been made. -/
lemma After.perm_sent (h : After b rpcTimeout endings order u) (hcompleted : b.CompletedBy order) :
    u.sent.Perm (b.calls.map (·.target)) := by
  have hmade : u.made.Perm (List.range b.calls.length) := by
    refine (List.perm_ext_iff_of_nodup h.nodup_made List.nodup_range).2 fun place => ?_
    rw [h.mem_made_iff, List.mem_range]
    refine ⟨And.right, fun hplace => ⟨?_, hplace⟩⟩
    exact List.count_pos_iff.1 (Nat.lt_of_lt_of_le Nat.two_pos (hcompleted place hplace))
  have hall := filterMap_getElem?_range (b.calls.map (·.target))
  rw [List.length_map] at hall
  rw [h.sent_eq]
  exact (hmade.filterMap _).trans (.of_eq hall)

/-! ### Results -/

end Underway

namespace Batch

/-- A fan-out has a result when all its calls have ended, and what it is depends on how they ended only. -/
theorem result?_after_eq_some_iff (hnew : ∀ c ∈ b.calls, c.result = none) {result : FanOut} :
    (b.after rpcTimeout endings order).result? = some result ↔
      b.CompletedBy order ∧ result = b.conclusion rpcTimeout endings := by
  have hresults (hcompleted : b.CompletedBy order) :
      ((b.after rpcTimeout endings order).calls.mapM fun c : Call => c.result.map (c.target.name, ·)) =
        some (b.results rpcTimeout endings) := by
    rw [mapM_eq_some_iff]
    apply List.ext_getElem
    · simp [results]
    · intro place hplace _
      rw [List.length_map, length_calls_after] at hplace
      simp [after, results, hcompleted place hplace]
  constructor
  · intro h
    obtain ⟨found, hfound, -⟩ := Option.map_eq_some_iff.1 h
    have hcompleted : b.CompletedBy order := by
      intro place hplace
      by_contra hcount
      have hcall : b.calls[place]? = some b.calls[place] := List.getElem?_eq_getElem hplace
      have hmap := congrArg (·[place]?) (mapM_eq_some_iff.1 hfound)
      simp only [after, List.getElem?_map, List.getElem?_mapIdx, hcall, Option.map_some, if_neg hcount,
        hnew _ (List.getElem_mem hplace), Option.map_none] at hmap
      cases hentry : found[place]? with
      | none => simp [hentry] at hmap
      | some entry => simp [hentry] at hmap
    rw [result?, hresults hcompleted] at h
    exact ⟨hcompleted, (Option.some.inj h).symm⟩
  · rintro ⟨hcompleted, rfl⟩
    rw [result?, hresults hcompleted]
    rfl

end Batch

end Flotilla.FanOut
