import Flotilla.Proofs.Cluster.Events

/-!
# Records that stay

A keeper of records is steady in an event if each record that stays is still about the same peer, and
each one that goes is forgotten: nobody fixed it, and all its signals are old.  Along a run a record then
stays what it is until it is forgotten, and one that was fixed stays for good.  A cluster is steady in
everything but direct edits.
-/

namespace Flotilla

open Rpc (CallError)

/-! ### Records -/

namespace Node

/-- The record is what became of an earlier one. -/
structure Continues (later earlier : Node) : Prop where
  identity_eq : later.identity = earlier.identity
  isLocal_eq : later.isLocal = earlier.isLocal
  createdAt_eq : later.createdAt = earlier.createdAt

lemma Continues.refl (node : Node) : node.Continues node := ⟨rfl, rfl, rfl⟩

lemma Continues.trans {last later earlier : Node} (h : last.Continues later)
    (h' : later.Continues earlier) : last.Continues earlier :=
  ⟨h.identity_eq.trans h'.identity_eq, h.isLocal_eq.trans h'.isLocal_eq,
    h.createdAt_eq.trans h'.createdAt_eq⟩

/-- A signal only moves the time of the last signal. -/
lemma continues_heard (now : Instant) (node : Node) : (Cluster.heard now node).Continues node :=
  ⟨rfl, rfl, rfl⟩

lemma continues_settled (outcome : Except CallError News) (now : Instant) (node : Node) :
    (Contact.settled outcome now node).Continues node :=
  ⟨by simp, by simp, by simp⟩

/-- The record is not local, and none of its three signals is less than 60 s old. -/
structure IsForgotten (node : Node) (now : Instant) : Prop where
  isLocal_eq : node.isLocal = false
  old : ∀ signal : Instant, signal = node.createdAt ∨ node.heardAt = some signal ∨
    node.reportedAt = some signal → (Span.seconds 60 : Int) ≤ now - signal

/-- A record that an eviction drops has been silent for a minute, and is not local. -/
lemma survivesAt_eq_false_iff {node : Node} {now : Instant} :
    node.survivesAt now = false ↔ node.IsForgotten now := by
  have hrecent (signal : Instant) :
      signal.isRecent now = false ↔ (Span.seconds 60 : Int) ≤ now - signal := by
    rw [Instant.isRecent, heartbeatTimeout, decide_eq_false_iff_not, Int.not_lt]
  have hsignal (signal? : Option Instant) : signal?.any (·.isRecent now) = false ↔
      ∀ signal, signal? = some signal → (Span.seconds 60 : Int) ≤ now - signal := by
    cases signal? with
    | none => simp
    | some signal => simp [hrecent]
  simp only [survivesAt, isValidAt, Bool.or_eq_false_iff, hrecent, hsignal]
  constructor
  · rintro ⟨⟨⟨hcreated, hheard⟩, hreported⟩, hlocal⟩
    refine ⟨hlocal, ?_⟩
    rintro signal (rfl | hget | hget)
    · exact hcreated
    · exact hheard signal hget
    · exact hreported signal hget
  · rintro ⟨hlocal, hold⟩
    exact ⟨⟨⟨hold _ (.inl rfl), fun signal hget => hold signal (.inr (.inl hget))⟩,
      fun signal hget => hold signal (.inr (.inr hget))⟩, hlocal⟩

end Node

/-- No record has left, and each still has the token that its peer has to present. -/
def Roster.Keeps (later earlier : Roster) : Prop :=
  ∀ key old, earlier.get? key = some old →
    ∃ node, later.get? key = some node ∧ node.Continues old ∧ node.inToken = old.inToken

namespace Roster.Keeps

variable {last later earlier : Roster}

lemma refl (r : Roster) : r.Keeps r := fun _ old hget => ⟨old, hget, .refl old, rfl⟩

lemma trans (h : last.Keeps later) (h' : later.Keeps earlier) : last.Keeps earlier := by
  intro key old hold
  obtain ⟨mid, hmid, hcontinues, htoken⟩ := h' key old hold
  obtain ⟨node, hnode, hcontinues', htoken'⟩ := h key mid hmid
  exact ⟨node, hnode, hcontinues'.trans hcontinues, htoken'.trans htoken⟩

/-- What a contact brought does not replace the record that it is written to. -/
lemma update_settled (r : Roster) (name : String) (outcome : Except CallError News) (now : Instant) :
    (r.update name (Contact.settled outcome now)).Keeps r := by
  intro key old hold
  rw [get?_update, hold]
  split_ifs
  · exact ⟨_, rfl, old.continues_settled outcome now, Contact.inToken_settled outcome now old⟩
  · exact ⟨old, rfl, .refl old, rfl⟩

end Roster.Keeps

/-! ### Keepers -/

/-- Something that keeps a table of records: what an event makes of it, and which events are a
registration of somebody, or an eviction, at some time. -/
structure Keeper (σ ε : Type) where
  step : σ → ε → σ
  table : σ → Roster
  registers : σ → ε → Identity → Instant → Prop
  evicts : ε → Instant → Prop

namespace Keeper

variable {σ ε σ' ε' : Type} (k : Keeper σ ε)

def run (s : σ) (es : List ε) : σ := es.foldl k.step s

/-- A record that stays is about the same peer, and only a registration of this peer while it is not
registered gives it another token.  A record leaves by an eviction, if and only if it is forgotten. -/
structure IsSteady (s : σ) (e : ε) : Prop where
  continues : ∀ key old node, (k.table s).get? key = some old →
    (k.table (k.step s e)).get? key = some node → node.Continues old
  token : ∀ key old node, (k.table s).get? key = some old →
    (k.table (k.step s e)).get? key = some node → node.inToken ≠ old.inToken →
    ∃ now, k.registers s e old.identity now ∧ old.registeredLocalAt now = false
  left : ∀ key old, (k.table s).get? key = some old → (k.table (k.step s e)).get? key = none →
    ∃ now, k.evicts e now ∧ old.IsForgotten now
  dropped : ∀ now, k.evicts e now → ∀ key old, (k.table s).get? key = some old → old.IsForgotten now →
    (k.table (k.step s e)).get? key = none

/-- Every event of a run is steady.  As long as a record stays it is about the same peer, and a local
record stays. -/
structure IsStable (s : σ) (es : List ε) : Prop where
  steady : ∀ before e after, es = before ++ e :: after → k.IsSteady (k.run s before) e
  staying : ∀ key old, (k.table s).get? key = some old →
    (∀ before, before <+: es → ∃ node, (k.table (k.run s before)).get? key = some node) →
    ∃ node, (k.table (k.run s es)).get? key = some node ∧ node.Continues old
  permanent : ∀ key old, (k.table s).get? key = some old → old.isLocal = true →
    ∃ node, (k.table (k.run s es)).get? key = some node ∧ node.Continues old

variable {k} {s : σ} {e : ε}

/-- A step that keeps all records and evicts none is steady. -/
lemma isSteady_of_keeps (h : (k.table (k.step s e)).Keeps (k.table s)) (hevicts : ∀ now, ¬ k.evicts e now) :
    k.IsSteady s e where
  continues key old node hold hnode := by
    obtain ⟨node', hnode', hcontinues, -⟩ := h key old hold
    exact Option.some.inj (hnode'.symm.trans hnode) ▸ hcontinues
  token key old node hold hnode htoken := by
    obtain ⟨node', hnode', -, hsame⟩ := h key old hold
    exact absurd (Option.some.inj (hnode'.symm.trans hnode) ▸ hsame) htoken
  left key old hold hnone := by
    obtain ⟨node, hnode, -⟩ := h key old hold
    rw [hnone] at hnode
    cases hnode
  dropped now hevict := absurd hevict (hevicts now)

/-- What is done to a table does not depend on who keeps it. -/
lemma IsSteady.transfer {k' : Keeper σ' ε'} {s' : σ'} {e' : ε'} (h : k'.IsSteady s' e')
    (hbefore : k.table s = k'.table s') (hafter : k.table (k.step s e) = k'.table (k'.step s' e'))
    (hregisters : ∀ who now, k'.registers s' e' who now → k.registers s e who now)
    (hevicts : ∀ now, k.evicts e now ↔ k'.evicts e' now) : k.IsSteady s e := by
  obtain ⟨hcontinues, htoken, hleft, hdropped⟩ := h
  rw [← hbefore, ← hafter] at hcontinues htoken hleft hdropped
  refine ⟨hcontinues, fun key old node hold hnode hne => ?_, fun key old hold hnone => ?_,
    fun now hevict => hdropped now ((hevicts now).1 hevict)⟩
  · obtain ⟨now, hregister, hdue⟩ := htoken key old node hold hnode hne
    exact ⟨now, hregisters _ now hregister, hdue⟩
  · obtain ⟨now, hevict, hforgotten⟩ := hleft key old hold hnone
    exact ⟨now, (hevicts now).2 hevict, hforgotten⟩

/-- A local record is there after every steady step. -/
lemma IsSteady.get?_of_isLocal (h : k.IsSteady s e) {key : String} {old : Node}
    (hold : (k.table s).get? key = some old) (hlocal : old.isLocal = true) :
    ∃ node, (k.table (k.step s e)).get? key = some node ∧ node.Continues old := by
  cases hnode : (k.table (k.step s e)).get? key with
  | none =>
    obtain ⟨now, -, hforgotten⟩ := h.left key old hold hnode
    rw [hforgotten.isLocal_eq] at hlocal
    cases hlocal
  | some node => exact ⟨node, rfl, h.continues key old node hold hnode⟩

section Runs

variable {P : ε → Prop} {es : List ε} (h : ∀ s e, P e → k.IsSteady s e) (hes : ∀ e ∈ es, P e)

include h hes

/-- A record that is never dropped is continued by what stands under its name after a run. -/
lemma continues_run {key : String} {old : Node} (hold : (k.table s).get? key = some old)
    (hstays : ∀ before, before <+: es → ∃ node, (k.table (k.run s before)).get? key = some node) :
    ∃ node, (k.table (k.run s es)).get? key = some node ∧ node.Continues old := by
  induction es generalizing s old with
  | nil => exact ⟨old, hold, .refl old⟩
  | cons e es ih =>
    obtain ⟨mid, hmid⟩ := hstays [e] ⟨es, rfl⟩
    have hcontinues := (h s e (hes e List.mem_cons_self)).continues key old mid hold hmid
    obtain ⟨node, hnode, hlast⟩ := ih (fun e' he' => hes e' (List.mem_cons_of_mem e he')) hmid
      fun before hbefore => hstays (e :: before) (List.cons_prefix_cons.2 ⟨rfl, hbefore⟩)
    exact ⟨node, hnode, hlast.trans hcontinues⟩

/-- A local record outlives every run. -/
lemma continues_run_of_isLocal {key : String} {old : Node} (hold : (k.table s).get? key = some old)
    (hlocal : old.isLocal = true) :
    ∃ node, (k.table (k.run s es)).get? key = some node ∧ node.Continues old := by
  induction es generalizing s old with
  | nil => exact ⟨old, hold, .refl old⟩
  | cons e es ih =>
    obtain ⟨mid, hmid, hcontinues⟩ := (h s e (hes e List.mem_cons_self)).get?_of_isLocal hold hlocal
    obtain ⟨node, hnode, hlast⟩ := ih (fun e' he' => hes e' (List.mem_cons_of_mem e he')) hmid
      (hcontinues.isLocal_eq.trans hlocal)
    exact ⟨node, hnode, hlast.trans hcontinues⟩

/-- A keeper that is steady in every event is stable along every run. -/
theorem isStable_of_isSteady (s : σ) : k.IsStable s es where
  steady before e _ hes' := h _ e (hes e (hes' ▸ List.mem_append_right before List.mem_cons_self))
  staying _ _ hold hstays := continues_run h hes hold hstays
  permanent _ _ hold hlocal := continues_run_of_isLocal h hes hold hlocal

end Runs

end Keeper

/-! ### Clusters -/

namespace Cluster

/-- The event is none of the direct edits. -/
def Event.IsProtocol : Event → Prop
  | .store _ _ | .erase _ | .replace _ _ => False
  | _ => True

/-- The event leaves all tokens to be presented alone and drops nothing. -/
def Event.IsQuiet : Event → Prop
  | .learn _ _ | .settle _ _ _ => True
  | _ => False

def keeper : Keeper Cluster Event where
  step c e := (c.step e).1
  table c := c.nodes
  registers c e who now := ∃ token server fresh r, e = .register who token server fresh now ∧
    (c.register who token server fresh now).2 = .ok r
  evicts e now := e = .evict now

lemma table_keeper (c : Cluster) : keeper.table c = c.nodes := rfl

lemma step_keeper (c : Cluster) (e : Event) : keeper.step c e = (c.step e).1 := rfl

lemma run_keeper (c : Cluster) (es : List Event) : keeper.run c es = c.run es := rfl

variable {c : Cluster} {e : Event} {key : String} {old node : Node}

/-- An admission changes the token of a record only if the old one had run out. -/
lemma continues_admitted {claimed : Identity} {token server fresh : String} {now : Instant}
    {r : Registration} (hget : c.nodes.get? claimed.name = some old)
    (hr : (c.register claimed token server fresh now).2 = .ok r) :
    (admitted (some old) claimed r.token now).Continues old ∧
      (r.token ≠ old.inToken → claimed = old.identity ∧ old.registeredLocalAt now = false) := by
  refine ⟨⟨rfl, rfl, rfl⟩, fun htoken => ?_⟩
  obtain ⟨-, ⟨hnone, -⟩ | ⟨known, hknown, hid, rfl⟩⟩ := register_eq_ok_iff.1 hr
  · rw [hget] at hnone
    cases hnone
  · obtain rfl : known = old := Option.some.inj (hknown.symm.trans hget)
    refine ⟨hid.symm, ?_⟩
    by_contra hlive
    rw [if_pos (by simpa using hlive)] at htoken
    exact htoken rfl

/-- In a step of the protocol a record is continued, and its token changes only by a registration of its
own node. -/
lemma continues_step (he : e.IsProtocol) (hold : c.nodes.get? key = some old)
    (hnode : (c.step e).1.nodes.get? key = some node) :
    node.Continues old ∧ (node.inToken ≠ old.inToken →
      ∃ now, keeper.registers c e old.identity now ∧ old.registeredLocalAt now = false) := by
  have hchange := change_step c key e
  generalize (c.step e).1.nodes.get? key = after at hnode hchange
  generalize hentry : (e, (c.step e).2) = entry at hchange
  cases hchange with
  | @admitted claimed token server fresh now r hname hr =>
    obtain ⟨rfl, -⟩ := Prod.mk.inj hentry
    cases hnode
    subst hname
    obtain ⟨hcontinues, htoken⟩ := continues_admitted hold hr
    rw [hold]
    refine ⟨hcontinues, fun hne => ?_⟩
    obtain ⟨rfl, hdue⟩ := htoken hne
    exact ⟨now, ⟨token, server, fresh, r, rfl, hr⟩, hdue⟩
  | authenticated hname hknown | greeted hname hknown =>
    cases hnode
    cases hold.symm.trans hknown
    exact ⟨old.continues_heard _, fun hne => absurd rfl hne⟩
  | dropped | erased => cases hnode
  | learned hname hnone =>
    rw [hold] at hnone
    cases hnone
  | settled outcome now =>
    rw [hold] at hnode
    cases hnode
    exact ⟨old.continues_settled outcome now,
      fun hne => absurd (Contact.inToken_settled outcome now old) hne⟩
  | stored | replaced =>
    obtain ⟨rfl, -⟩ := Prod.mk.inj hentry
    exact he.elim
  | kept =>
    cases hold.symm.trans hnode
    exact ⟨.refl old, fun hne => absurd rfl hne⟩

/-- Only an eviction drops a record, and only one that is stale. -/
lemma isForgotten_of_step (he : e.IsProtocol) (hold : c.nodes.get? key = some old)
    (hnone : (c.step e).1.nodes.get? key = none) :
    ∃ now, e = .evict now ∧ old.IsForgotten now := by
  have hchange := change_step c key e
  generalize (c.step e).1.nodes.get? key = after at hnone hchange
  generalize hentry : (e, (c.step e).2) = entry at hchange
  cases hchange with
  | admitted | authenticated | greeted | learned | stored => cases hnone
  | @dropped now names known hmem hknown hstale =>
    obtain ⟨rfl, -⟩ := Prod.mk.inj hentry
    cases hold.symm.trans hknown
    exact ⟨now, rfl, Node.survivesAt_eq_false_iff.1 hstale⟩
  | settled | replaced =>
    rw [hold] at hnone
    cases hnone
  | erased =>
    obtain ⟨rfl, -⟩ := Prod.mk.inj hentry
    exact he.elim
  | kept =>
    rw [hold] at hnone
    cases hnone

/-- A cluster is steady in everything but direct edits. -/
theorem isSteady (c : Cluster) (e : Event) (he : e.IsProtocol) : keeper.IsSteady c e where
  continues _ _ _ hold hnode := (continues_step he hold hnode).1
  token _ _ _ hold hnode := (continues_step he hold hnode).2
  left _ _ hold hnone := isForgotten_of_step he hold hnone
  dropped := by
    -- `Change` does not say that an eviction is thorough; what the roster keeps is what survives
    rintro now rfl key old hold hforgotten
    have hstale := Node.survivesAt_eq_false_iff.2 hforgotten
    change (c.evictStale now).1.nodes.get? key = none
    rw [nodes_evictStale, Roster.get?_filter, show c.nodes.get? key = some old from hold]
    simp [hstale]

lemma keeps_step (c : Cluster) (he : e.IsQuiet) : (c.step e).1.nodes.Keeps c.nodes := by
  cases e with
  | learn peer now =>
    intro key old hold
    refine ⟨old, ?_, .refl old, rfl⟩
    simp [step, hold]
  | settle name outcome now => exact .update_settled c.nodes name outcome now
  | register | authenticate | heartbeat | isolate | evict | store | erase | replace => exact he.elim

lemma keeps_run {es : List Event} (c : Cluster) (hes : ∀ e ∈ es, e.IsQuiet) :
    (c.run es).nodes.Keeps c.nodes := by
  induction es generalizing c with
  | nil => exact .refl _
  | cons e es ih =>
    exact (ih _ fun e' he' => hes e' (List.mem_cons_of_mem e he')).trans
      (c.keeps_step (hes e List.mem_cons_self))

end Cluster

end Flotilla
