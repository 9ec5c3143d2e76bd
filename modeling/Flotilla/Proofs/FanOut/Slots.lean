import Mathlib.Algebra.Order.BigOperators.Group.List
import Mathlib.Algebra.Order.Group.Nat
import Flotilla.Client
import Flotilla.Proofs.FanOut.Accounting

/-!
# Slots

The calls of all fan-outs of a client share its limiter and take their steps in any order.  No slot is lost by
that, and no more requests are under way than there are slots.
-/

namespace Flotilla.FanOut

lemma exists_map_some {α : Type} {l : List (Option α)} (h : ∀ a ∈ l, a.isSome = true) :
    ∃ as : List α, l = as.map some := by
  induction l with
  | nil => exact ⟨[], rfl⟩
  | cons a l ih =>
    obtain ⟨ha, hl⟩ := List.forall_mem_cons.1 h
    obtain ⟨a, rfl⟩ := Option.isSome_iff_exists.1 ha
    obtain ⟨as, rfl⟩ := ih hl
    exact ⟨a :: as, rfl⟩

/-- A fan-out returns once all its calls have ended. -/
lemma Batch.isSome_result?_iff {b : Batch} :
    b.result?.isSome = true ↔ ∀ call ∈ b.calls, call.result.isSome = true := by
  rw [result?, Option.isSome_map, Option.isSome_iff_exists]
  simp only [mapM_eq_some_iff]
  constructor
  · rintro ⟨found, hfound⟩ call hcall
    have hmem : call.result.map (call.target.name, ·) ∈ found.map some := by
      rw [← hfound]
      exact List.mem_map_of_mem hcall
    obtain ⟨entry, -, hentry⟩ := List.mem_map.1 hmem
    have hsome := congrArg Option.isSome hentry
    rwa [Option.isSome_map, Option.isSome_some, eq_comm] at hsome
  · intro h
    apply exists_map_some
    intro result hresult
    obtain ⟨call, hcall, rfl⟩ := List.mem_map.1 hresult
    rw [Option.isSome_map]
    exact h call hcall

namespace Client

variable {limit : ℕ} {s : Client} {c c' : CallId} {ending : Ending}

/-! ### What a step does to the calls -/

lemma isOpen_start {b : Batch} (h : s.isOpen c = true) : (s.start b).isOpen c = true := by
  obtain ⟨call, hcall, hopen⟩ := (Option.any_eq_true _ _).1 h
  obtain ⟨batch, hbatch, hcall⟩ := Option.bind_eq_some_iff.1 hcall
  have hlater : (s.batches ++ [b])[c.number]? = some batch := by
    rw [List.getElem?_append_left (List.getElem?_eq_some_iff.1 hbatch).1, hbatch]
  simp only [isOpen, start, hlater, Option.bind_some, hcall, Option.any_some, hopen]

/-- A call that ends is not open any more, and the other ones are as they were. -/
lemma isOpen_leave : (s.leave c ending).isOpen c' = (s.isOpen c' && c' != c) := by
  obtain ⟨number, place⟩ := c
  obtain ⟨number', place'⟩ := c'
  simp only [isOpen, leave, List.getElem?_modify]
  cases hbatch : s.batches[number']? with
  | none => rfl
  | some b =>
    by_cases hnumber : number = number'
    · subst hnumber
      simp only [if_pos, Option.map_eq_map, Option.map_some, Option.bind_some, Batch.finish,
        List.getElem?_modify]
      cases hcall : b.calls[place']? with
      | none => rfl
      | some call =>
        by_cases hplace : place = place'
        · simp [hplace]
        · have hne : CallId.mk number place' ≠ ⟨number, place⟩ := fun h => hplace (congrArg CallId.place h).symm
          simp [hplace, hne]
    · have hne : CallId.mk number' place' ≠ ⟨number, place⟩ := fun h => hnumber (congrArg CallId.number h).symm
      simp [hnumber, hne]

/-! ### The line -/

/-- A free slot is given at once. -/
lemma acquire_of_free (h : s.limiter.free ≠ 0) (c : CallId) :
    s.acquire c =
      { s with limiter := { s.limiter with free := s.limiter.free - 1 }, admitted := s.admitted ++ [c] } := by
  rw [acquire, Limiter.acquire, if_neg h]
  rfl

/-- Without a free slot a call has to wait in line. -/
lemma acquire_of_full (h : s.limiter.free = 0) (c : CallId) :
    s.acquire c = { s with limiter := { s.limiter with line := s.limiter.line ++ [c] } } := by
  rw [acquire, Limiter.acquire, if_pos h]
  rfl

/-- The slot that is given back is free if nobody waits. -/
lemma leave_of_nil (h : s.limiter.line = []) (c : CallId) (ending : Ending) :
    s.leave c ending =
      { s with
        limiter := ⟨s.limiter.free + 1, []⟩
        batches := s.batches.modify c.number (·.finish s.rpcTimeout c.place ending)
        admitted := s.admitted.erase c
        sent := s.sent.erase c } := by
  simp [leave, Limiter.release, h]

/-- The slot that is given back goes to the first in line. -/
lemma leave_of_cons {who : CallId} {line : List CallId} (h : s.limiter.line = who :: line)
    (c : CallId) (ending : Ending) :
    s.leave c ending =
      { s with
        limiter := { s.limiter with line }
        batches := s.batches.modify c.number (·.finish s.rpcTimeout c.place ending)
        admitted := s.admitted.erase c ++ [who]
        sent := s.sent.erase c } := by
  rw [leave, Limiter.release, h]
  rfl

/-! ### Accounting for slots -/

/-- Every slot is free or in use, nobody waits while one is free, and the calls that have asked for a slot
are different ones that have not ended. -/
structure Sound (limit : ℕ) (s : Client) : Prop where
  slots : s.sent.length + s.admitted.length + s.limiter.free = max limit 1
  line_eq_nil : s.limiter.free ≠ 0 → s.limiter.line = []
  nodup : s.asked.Nodup
  isOpen : ∀ c ∈ s.asked, s.isOpen c = true

lemma mem_asked : c ∈ s.asked ↔ c ∈ s.sent ∨ c ∈ s.admitted ∨ c ∈ s.limiter.line := by
  simp [asked]

/-- A client without fan-outs is sound. -/
lemma sound_new (this : Identity) (limit : ℕ) (rpcTimeout : Span) :
    (new this limit rpcTimeout).Sound limit where
  slots := by simp [new, Limiter.new]
  line_eq_nil := fun _ => rfl
  nodup := List.nodup_nil
  isOpen := nofun

namespace Sound

/-- A call that asks for a slot gets one that is free, or it waits in line. -/
lemma acquire (h : s.Sound limit) (hopen : s.isOpen c = true) (hasked : c ∉ s.asked) :
    (s.acquire c).Sound limit := by
  have hslots := h.slots
  have hnodup : (c :: s.asked).Nodup := List.nodup_cons.2 ⟨hasked, h.nodup⟩
  have hisOpen : ∀ c' ∈ c :: s.asked, s.isOpen c' = true := List.forall_mem_cons.2 ⟨hopen, h.isOpen⟩
  by_cases hfree : s.limiter.free = 0
  · rw [acquire_of_full hfree]
    have hperm : (s.sent ++ s.admitted ++ (s.limiter.line ++ [c])).Perm (c :: s.asked) := by
      rw [← List.append_assoc]
      exact List.perm_append_singleton c _
    exact ⟨hslots, fun hne => absurd hfree hne, hperm.nodup_iff.2 hnodup,
      fun c' hc' => hisOpen c' (hperm.mem_iff.1 hc')⟩
  · rw [acquire_of_free hfree]
    have hline := h.line_eq_nil hfree
    have hperm : (s.sent ++ (s.admitted ++ [c]) ++ s.limiter.line).Perm (c :: s.asked) := by
      rw [asked, hline, List.append_nil, List.append_nil, ← List.append_assoc]
      exact List.perm_append_singleton c _
    refine ⟨?_, fun _ => hline, hperm.nodup_iff.2 hnodup, fun c' hc' => hisOpen c' (hperm.mem_iff.1 hc')⟩
    simp only [List.length_append, List.length_singleton]
    omega

/-- A call that sends its request keeps its slot. -/
lemma send (h : s.Sound limit) (hc : c ∈ s.admitted) : (s.send c).Sound limit := by
  have hslots := h.slots
  have hperm : (s.send c).asked.Perm s.asked := by
    simp only [asked, Client.send, List.append_assoc, List.singleton_append]
    exact ((List.perm_cons_erase hc).symm.append_right _).append_left _
  refine ⟨?_, h.line_eq_nil, hperm.nodup_iff.2 h.nodup, fun c' hc' => h.isOpen c' (hperm.mem_iff.1 hc')⟩
  have hpos : 0 < s.admitted.length := List.length_pos_of_mem hc
  simp only [Client.send, List.length_append, List.length_singleton, List.length_erase_of_mem hc]
  omega

/-- No call has two slots. -/
lemma nodup_held (h : s.Sound limit) : (s.sent ++ s.admitted).Nodup := (List.nodup_append.1 h.nodup).1

/-- A call that has sent its request is not about to send it. -/
lemma not_mem_admitted (h : s.Sound limit) (hc : c ∈ s.sent) : c ∉ s.admitted :=
  fun hadmitted => (List.nodup_append.1 h.nodup_held).2.2 c hc c hadmitted rfl

/-- A call that has a slot does not wait for one. -/
lemma not_mem_line (h : s.Sound limit) (hc : c ∈ s.sent ++ s.admitted) : c ∉ s.limiter.line :=
  fun hline => (List.nodup_append.1 h.nodup).2.2 c hc c hline rfl

/-- Among the calls that have a slot, one that ends stands in one place. -/
lemma perm_erase (h : s.Sound limit) (hc : c ∈ s.sent ∨ c ∈ s.admitted) :
    (c :: (s.sent.erase c ++ s.admitted.erase c)).Perm (s.sent ++ s.admitted) := by
  have herase : s.sent.erase c ++ s.admitted.erase c = (s.sent ++ s.admitted).erase c := by
    rw [List.erase_append]
    split_ifs with hsent
    · rw [List.erase_of_not_mem (h.not_mem_admitted hsent)]
    · rw [List.erase_of_not_mem hsent]
  rw [herase]
  exact (List.perm_cons_erase (List.mem_append.2 hc)).symm

/-- A call that ends leaves the others as they were, but for the first in line. -/
lemma perm_asked_leave (h : s.Sound limit) (hc : c ∈ s.sent ∨ c ∈ s.admitted) :
    (c :: (s.leave c ending).asked).Perm s.asked := by
  have hasked : (s.leave c ending).asked =
      s.sent.erase c ++ s.admitted.erase c ++ s.limiter.line := by
    cases hline : s.limiter.line with
    | nil => simp [leave_of_nil hline, asked]
    | cons who line => simp [leave_of_cons hline, asked]
  rw [hasked]
  exact (h.perm_erase hc).append_right _

/-- A call that ends gives back its slot. -/
lemma leave (h : s.Sound limit) (hc : c ∈ s.sent ∨ c ∈ s.admitted) (ending : Ending) :
    (s.leave c ending).Sound limit := by
  have hslots := h.slots
  have hlength := (h.perm_erase hc).length_eq
  have hperm : (c :: (s.leave c ending).asked).Perm s.asked := h.perm_asked_leave hc
  have hnodup := List.nodup_cons.1 (hperm.nodup_iff.2 h.nodup)
  simp only [List.length_cons, List.length_append] at hlength
  refine ⟨?_, ?_, hnodup.2, ?_⟩
  · cases hline : s.limiter.line with
    | nil =>
      rw [leave_of_nil hline]
      simp only
      omega
    | cons who line =>
      rw [leave_of_cons hline]
      simp only [List.length_append, List.length_singleton]
      omega
  · cases hline : s.limiter.line with
    | nil =>
      rw [leave_of_nil hline]
      exact fun _ => rfl
    | cons who line =>
      rw [leave_of_cons hline]
      intro hfree
      rw [h.line_eq_nil hfree] at hline
      cases hline
  · intro c' hc'
    have hne : c' ≠ c := by
      rintro rfl
      exact hnodup.1 hc'
    rw [isOpen_leave, h.isOpen c' (hperm.mem_iff.1 (List.mem_cons_of_mem c hc'))]
    simpa using hne

lemma start (h : s.Sound limit) (b : Batch) : (s.start b).Sound limit where
  slots := h.slots
  line_eq_nil := h.line_eq_nil
  nodup := h.nodup
  isOpen := fun c hc => isOpen_start (h.isOpen c hc)

/-- Whatever happens, all slots are accounted for. -/
lemma step (h : s.Sound limit) (m : Move) : (s.step m).Sound limit := by
  cases m with
  | start t targets unknown now => exact h.start _
  | acquire c =>
    simp only [Client.step]
    split_ifs with hc
    · exact h.acquire hc.1 hc.2
    · exact h
  | send c =>
    simp only [Client.step]
    split_ifs with hc
    · exact h.send hc
    · exact h
  | complete c ending =>
    simp only [Client.step]
    split_ifs with hc
    · exact h.leave (.inl hc) ending
    · exact h
  | abort c reason =>
    simp only [Client.step]
    split_ifs with hc
    · exact h.leave (.inr hc) (.died reason)
    · exact h

/-- A client stays sound whatever happens; the induction is on the moves. -/
lemma play (h : s.Sound limit) (moves : List Move) : (s.play moves).Sound limit := by
  induction moves generalizing s with
  | nil => exact h
  | cons m moves ih => exact ih (h.step m)

/-! ### When all fan-outs have returned -/

/-- If all fan-outs have returned, no call is open any more. -/
lemma asked_eq_nil (h : s.Sound limit) (hreturned : ∀ b ∈ s.batches, b.result?.isSome = true) :
    s.asked = [] := by
  apply List.eq_nil_iff_forall_not_mem.2
  intro c hc
  obtain ⟨call, hcall, hopen⟩ := (Option.any_eq_true _ _).1 (h.isOpen c hc)
  obtain ⟨b, hb, hcall⟩ := Option.bind_eq_some_iff.1 hcall
  have hreturned := hreturned b (List.mem_of_getElem? hb)
  have hended := Batch.isSome_result?_iff.1 hreturned call (List.mem_of_getElem? hcall)
  rw [Option.isNone_iff_eq_none.1 hopen] at hended
  cases hended

end Sound

/-! ### Going on without some calls -/

def Move.call? : Move → Option CallId
  | .start .. => none
  | .acquire c | .send c | .complete c _ | .abort c _ => some c

/-- How many steps a call has to go. -/
def toGo (s : Client) (c : CallId) : ℕ :=
  if s.isOpen c then
    if c ∈ s.sent then 1 else if c ∈ s.admitted then 2 else if c ∈ s.limiter.line then 3 else 4
  else 0

/-- A call gets further, and no other one falls back. -/
def Advances (s s' : Client) (c : CallId) : Prop :=
  s'.toGo c < s.toGo c ∧ ∀ c', s'.toGo c' ≤ s.toGo c'

@[simp] lemma isOpen_acquire : (s.acquire c).isOpen c' = s.isOpen c' := rfl

@[simp] lemma isOpen_send : (s.send c).isOpen c' = s.isOpen c' := rfl

namespace Sound

/-- A call that asks for a slot has a step less to go. -/
lemma advances_acquire (hopen : s.isOpen c = true) (hasked : c ∉ s.asked) : s.Advances (s.acquire c) c := by
  simp only [mem_asked, not_or] at hasked
  simp only [Advances, toGo, isOpen_acquire]
  by_cases hfree : s.limiter.free = 0
  · simp only [acquire_of_full hfree, List.mem_append, List.mem_singleton]
    grind
  · simp only [acquire_of_free hfree, List.mem_append, List.mem_singleton]
    grind

/-- A call that sends its request has a step less to go. -/
lemma advances_send (h : s.Sound limit) (hc : c ∈ s.admitted) : s.Advances (s.send c) c := by
  have hopen := h.isOpen c (mem_asked.2 (.inr (.inl hc)))
  have hsent : c ∉ s.sent := fun hsent => h.not_mem_admitted hsent hc
  simp only [Advances, toGo, isOpen_send]
  simp only [Client.send, List.mem_append, List.mem_singleton]
  grind

/-- A call that ends has no step to go, and no other one falls back. -/
lemma advances_leave (h : s.Sound limit) (hc : c ∈ s.sent ∨ c ∈ s.admitted) :
    s.Advances (s.leave c ending) c := by
  have hopen := h.isOpen c (mem_asked.2 (hc.imp_right .inl))
  simp only [Advances, toGo, isOpen_leave]
  cases hline : s.limiter.line with
  | nil =>
    simp only [leave_of_nil hline]
    grind
  | cons who line =>
    simp only [leave_of_cons hline, List.mem_append, List.mem_cons]
    grind

/-- A call that is open and does not wait can take a step. -/
lemma exists_advances (h : s.Sound limit) (hopen : s.isOpen c = true) (hline : c ∉ s.limiter.line) :
    ∃ m : Move, m.call? = some c ∧ s.Advances (s.step m) c := by
  by_cases hsent : c ∈ s.sent
  · refine ⟨.complete c .timedOut, rfl, ?_⟩
    rw [Client.step, if_pos hsent]
    exact h.advances_leave (.inl hsent)
  by_cases hadmitted : c ∈ s.admitted
  · refine ⟨.send c, rfl, ?_⟩
    rw [Client.step, if_pos hadmitted]
    exact h.advances_send hadmitted
  · have hasked : c ∉ s.asked := by simp [mem_asked, hsent, hadmitted, hline]
    refine ⟨.acquire c, rfl, ?_⟩
    rw [Client.step, if_pos ⟨hopen, hasked⟩]
    exact advances_acquire hopen hasked

end Sound

/-- A call has a step to go just if it is open. -/
lemma toGo_pos_iff : 0 < s.toGo c ↔ s.isOpen c = true := by
  rw [toGo]
  split_ifs with hopen <;> simp [hopen]

/-- The calls that are open are on a list. -/
lemma exists_open (s : Client) : ∃ calls : List CallId, ∀ c, s.isOpen c = true → c ∈ calls := by
  refine ⟨s.batches.zipIdx.flatMap fun b => (List.range b.1.calls.length).map (⟨b.2, ·⟩), ?_⟩
  intro c hopen
  obtain ⟨call, hcall, -⟩ := (Option.any_eq_true _ _).1 hopen
  obtain ⟨b, hb, hcall⟩ := Option.bind_eq_some_iff.1 hcall
  refine List.mem_flatMap.2 ⟨(b, c.number), List.mem_zipIdx_iff_getElem?.2 hb, ?_⟩
  exact List.mem_map.2 ⟨c.place, List.mem_range.2 (List.getElem?_eq_some_iff.1 hcall).1, rfl⟩

/-- Only calls that are not among some others take steps. -/
def Without (stuck : List CallId) (moves : List Move) : Prop :=
  ∀ m ∈ moves, ∃ c, m.call? = some c ∧ c ∉ stuck

/-- Without some calls the others can go on until they have ended or wait in line. -/
lemma Sound.exists_play (h : s.Sound limit) (stuck : List CallId) :
    ∃ moves, Without stuck moves ∧ ∀ c, (s.play moves).isOpen c = true → c ∉ stuck →
      c ∈ (s.play moves).limiter.line := by
  obtain ⟨calls, hcalls⟩ := s.exists_open
  -- Every step leaves less to go in all.
  induction hmeasure : (calls.map s.toGo).sum using Nat.strong_induction_on generalizing s with
  | _ measure ih =>
    by_cases hrest : ∀ c, s.isOpen c = true → c ∉ stuck → c ∈ s.limiter.line
    · exact ⟨[], nofun, hrest⟩
    · push Not at hrest
      obtain ⟨c, hopen, hstuck, hline⟩ := hrest
      obtain ⟨m, hm, hless, hle⟩ := h.exists_advances hopen hline
      have hsum : (calls.map (s.step m).toGo).sum < measure := by
        rw [← hmeasure]
        exact List.sum_lt_sum _ _ (fun c' _ => hle c') ⟨c, hcalls c hopen, hless⟩
      have hlater : ∀ c', (s.step m).isOpen c' = true → c' ∈ calls := by
        intro c' hc'
        exact hcalls c' (toGo_pos_iff.1 (Nat.lt_of_lt_of_le (toGo_pos_iff.2 hc') (hle c')))
      obtain ⟨moves, hmoves, hend⟩ := ih _ hsum (h.step m) hlater rfl
      exact ⟨m :: moves, List.forall_mem_cons.2 ⟨⟨c, hm, hstuck⟩, hmoves⟩, hend⟩

/-- A call has ended, and its slot is free again, or the first in line has it. -/
inductive GivesBack (s : Client) (c : CallId) (s' : Client) : Prop where
  | free (hended : s'.isOpen c = false) (hline : s.limiter.line = []) (hsent : s'.sent = s.sent.erase c)
      (hadmitted : s'.admitted = s.admitted) (hfree : s'.limiter.free = s.limiter.free + 1)
  | passed (hended : s'.isOpen c = false) {who : CallId} {line : List CallId}
      (hline : s.limiter.line = who :: line) (hsent : s'.sent = s.sent.erase c)
      (hadmitted : s'.admitted = s.admitted ++ [who]) (hfree : s'.limiter.free = s.limiter.free)

/-- A call that has sent its request can end in every way, whatever the other calls do. -/
lemma Sound.givesBack (h : s.Sound limit) (hc : c ∈ s.sent) (ending : Ending) :
    s.GivesBack c (s.step (.complete c ending)) := by
  have hadmitted : s.admitted.erase c = s.admitted := List.erase_of_not_mem (h.not_mem_admitted hc)
  have hended : (s.leave c ending).isOpen c = false := by simp [isOpen_leave]
  rw [Client.step, if_pos hc]
  cases hline : s.limiter.line with
  | nil =>
    have hleave := leave_of_nil hline c ending
    rw [hadmitted] at hleave
    exact .free hended hline (by rw [hleave]) (by rw [hleave]) (by rw [hleave])
  | cons who line =>
    have hleave := leave_of_cons hline c ending
    rw [hadmitted] at hleave
    exact .passed hended hline (by rw [hleave]) (by rw [hleave]) (by rw [hleave])

/-- What is left when all calls but some have gone on as far as they can: these hold all slots that are not
free.  If there are fewer of them than slots, every fan-out has returned that none of them belongs to. -/
structure LeftWith (limit : ℕ) (stuck : List CallId) (s : Client) : Prop where
  held : ∀ c ∈ s.sent ++ s.admitted, c ∈ stuck
  returned : stuck.length < max limit 1 → ∀ number b, s.batches[number]? = some b →
    (∀ place, ⟨number, place⟩ ∉ stuck) → b.result?.isSome = true

/-- If all other open calls stand in line, only stuck calls hold slots, and with fewer of them than slots
every fan-out without a stuck call has its result. -/
lemma Sound.leftWith (h : s.Sound limit) {stuck : List CallId}
    (hrest : ∀ c, s.isOpen c = true → c ∉ stuck → c ∈ s.limiter.line) : s.LeftWith limit stuck := by
  have hheld : ∀ c ∈ s.sent ++ s.admitted, c ∈ stuck := by
    intro c hc
    by_contra hstuck
    exact h.not_mem_line hc (hrest c (h.isOpen c (List.mem_append_left _ hc)) hstuck)
  refine ⟨hheld, ?_⟩
  intro hfew number b hb hstuck
  have hslots := h.slots
  have hlength : (s.sent ++ s.admitted).length ≤ stuck.length :=
    (h.nodup_held.subperm hheld).length_le
  rw [List.length_append] at hlength
  have hline : s.limiter.line = [] := h.line_eq_nil (by omega)
  rw [Batch.isSome_result?_iff]
  intro call hcall
  obtain ⟨place, hplace⟩ := List.mem_iff_getElem?.1 hcall
  by_contra hresult
  have hopen : s.isOpen ⟨number, place⟩ = true := by
    simp only [Client.isOpen, hb, Option.bind_some, hplace, Option.any_some]
    simpa using hresult
  have hmem := hrest ⟨number, place⟩ hopen (hstuck place)
  rw [hline] at hmem
  cases hmem

/-- What holds of a client at any time.  The calls that have sent their requests and have not ended, those that
have got their slots and are about to send, and the free slots are as many as the limit; so there are at most
that many requests under way, and with the free slots exactly that many where no call stands between its slot
and its request.  Every call that has sent its request can end, in every way, and gives its slot back.
Calls that never do anything again do not keep the others from going on until all slots are free but those
that they have themselves.  When all fan-outs have returned, all slots are free. -/
structure WithinLimit (limit : ℕ) (s : Client) : Prop where
  slots : s.sent.length + s.admitted.length + s.limiter.free = max limit 1
  sent_le : s.sent.length ≤ max limit 1
  sent_eq : s.admitted = [] → s.sent.length + s.limiter.free = max limit 1
  givesBack : ∀ c ∈ s.sent, ∀ ending, s.GivesBack c (s.step (.complete c ending))
  goesOn : ∀ stuck, ∃ moves, Without stuck moves ∧ (s.play moves).LeftWith limit stuck
  returned : (∀ b ∈ s.batches, b.result?.isSome = true) →
    s.sent = [] ∧ s.admitted = [] ∧ s.limiter.line = [] ∧ s.limiter.free = max limit 1

/-- The limit on the requests under way is kept at any time, and no slot is ever lost: whatever fan-outs begin,
in whatever order their calls take their steps, and in whatever ways they end. -/
theorem withinLimit_play (this : Identity) (limit : ℕ) (rpcTimeout : Span) (moves : List Move) :
    ((new this limit rpcTimeout).play moves).WithinLimit limit := by
  have h := (sound_new this limit rpcTimeout).play moves
  have hslots := h.slots
  refine ⟨hslots, by omega, ?_, fun c hc ending => h.givesBack hc ending, ?_, ?_⟩
  · intro hadmitted
    rwa [hadmitted, List.length_nil, Nat.add_zero] at hslots
  · intro stuck
    obtain ⟨later, hwithout, hrest⟩ := h.exists_play stuck
    exact ⟨later, hwithout, (h.play later).leftWith hrest⟩
  · intro hreturned
    obtain ⟨hheld, hline⟩ := List.append_eq_nil_iff.1 (h.asked_eq_nil hreturned)
    obtain ⟨hsent, hadmitted⟩ := List.append_eq_nil_iff.1 hheld
    refine ⟨hsent, hadmitted, hline, ?_⟩
    rwa [hsent, hadmitted, List.length_nil, Nat.zero_add] at hslots

/-! ### A crowd -/

namespace Crowd

/-- A client has at least one slot, whatever its limit. -/
def client : Client := new Query.asker 0 (Span.seconds 5)

/-- The calls of two fan-outs ask for the slot. -/
def rush : List Move :=
  [.start (.getUsers "in") [Query.target, Query.target] [] 0, .start (.getUsers "in") [Query.target] [] 0,
    .acquire ⟨0, 0⟩, .acquire ⟨1, 0⟩, .send ⟨0, 0⟩, .acquire ⟨0, 1⟩]

/-- They end in different ways. -/
def retreat : List Move :=
  [.complete ⟨0, 0⟩ .timedOut, .abort ⟨1, 0⟩ "cancelled", .send ⟨0, 1⟩,
    .complete ⟨0, 1⟩ (.answered (.error Rpc.refused))]

end Crowd

/-- One request is under way and two calls wait for it to end.  When all have ended, the slot is free. -/
theorem withinLimit_play_crowd :
    (Crowd.client.play Crowd.rush).sent = [⟨0, 0⟩] ∧
      (Crowd.client.play Crowd.rush).limiter = ⟨0, [⟨1, 0⟩, ⟨0, 1⟩]⟩ ∧
      (Crowd.client.play (Crowd.rush ++ Crowd.retreat)).limiter.free = 1 := by
  refine ⟨by decide +kernel, by decide +kernel, ?_⟩
  have hreturned :
      ∀ b ∈ (Crowd.client.play (Crowd.rush ++ Crowd.retreat)).batches, b.result?.isSome = true := by
    decide +kernel
  have h := withinLimit_play Query.asker 0 (Span.seconds 5) (Crowd.rush ++ Crowd.retreat)
  obtain ⟨-, -, -, hfree⟩ := h.returned hreturned
  exact hfree

/-- A call that has a slot and has not sent its request yet leaves fewer slots than the limit to the requests
under way and to those that are free, whether it found its slot free or was handed it by another call. -/
theorem sent_add_free_ne_of_admitted :
    let asking := (new Query.asker 1 (Span.seconds 5)).play
      [.start (.getUsers "in") [Query.target, Query.target] [] 0, .acquire ⟨0, 0⟩]
    let handed := asking.play [.acquire ⟨0, 1⟩, .send ⟨0, 0⟩, .complete ⟨0, 0⟩ .timedOut]
    (asking.sent = [] ∧ asking.admitted = [⟨0, 0⟩] ∧ asking.sent.length + asking.limiter.free ≠ max 1 1) ∧
      handed.sent = [] ∧ handed.admitted = [⟨0, 1⟩] ∧
        handed.sent.length + handed.limiter.free ≠ max 1 1 := by
  decide +kernel

end Client

end Flotilla.FanOut
