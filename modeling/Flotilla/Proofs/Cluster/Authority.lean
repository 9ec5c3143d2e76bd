import Mathlib.Data.List.Induction
import Flotilla.Proofs.Cluster.Events

/-!
# Where the authority of a token comes from

A request is accepted only with the token that the last registration of its node was given, and only
if the record of that registration was never taken away since.  The invariant of a run is that each
record with a token is backed by the history: the token was issued to the node that the record is
about, and the record heard from it when the history says.
-/

namespace Flotilla.Cluster

/-! ### Reading a history -/

/-- The node was given the token by a registration, and neither the record nor the token under its name
was replaced since. -/
def Issued (past : List Entry) (who : Identity) (token : String) : Prop :=
  ∃ before after credentials server fresh now already,
    past = before ++
      (.register who credentials server fresh now, .registration (.ok ⟨token, already⟩)) :: after ∧
    ∀ entry ∈ after, ¬ Removes who.name entry ∧ ∀ other ∈ issued? who.name entry, other = token

/-- The last token that a name was given. -/
def lastIssued? (name : String) (past : List Entry) : Option String :=
  (past.filterMap (issued? name)).getLast?

/-- When the node with a name last proved itself. -/
def lastProof? (name : String) (past : List Entry) : Option Instant :=
  (past.filterMap (proof? name)).getLast?

lemma lastProof?_snoc (name : String) (past : List Entry) (entry : Entry) :
    lastProof? name (past ++ [entry]) = (proof? name entry).or (lastProof? name past) := by
  cases h : proof? name entry <;> simp [lastProof?, h]

/-- A token stays issued as long as its record is not removed and no other token is issued. -/
lemma Issued.snoc {past : List Entry} {who : Identity} {token : String} {entry : Entry}
    (h : Issued past who token) (hstays : ¬ Removes who.name entry)
    (hsame : ∀ other ∈ issued? who.name entry, other = token) :
    Issued (past ++ [entry]) who token := by
  obtain ⟨before, after, credentials, server, fresh, now, already, rfl, hafter⟩ := h
  refine ⟨before, after ++ [entry], credentials, server, fresh, now, already, by simp, ?_⟩
  intro later hlater
  rcases List.mem_append.1 hlater with hlater | hlater
  · exact hafter later hlater
  · rw [List.mem_singleton.1 hlater]
    exact ⟨hstays, hsame⟩

/-- A registration that succeeds issues the token that it answers with. -/
lemma issued_snoc_register (past : List Entry) (who : Identity) (credentials server fresh : String)
    (now : Instant) (r : Registration) :
    Issued (past ++ [(.register who credentials server fresh now, .registration (.ok r))]) who
      r.token :=
  ⟨past, [], credentials, server, fresh, now, r.alreadyRegistered, rfl, by simp⟩

/-- A token that was issued and not replaced is the last one of its name. -/
lemma Issued.lastIssued? {past : List Entry} {who : Identity} {token : String}
    (h : Issued past who token) : lastIssued? who.name past = some token := by
  obtain ⟨before, after, credentials, server, fresh, now, already, rfl, hafter⟩ := h
  have hall : ∀ other ∈ after.filterMap (issued? who.name), other = token := by
    intro other hother
    obtain ⟨entry, hentry, hissued⟩ := List.mem_filterMap.1 hother
    exact (hafter entry hentry).2 other hissued
  have hrep : after.filterMap (issued? who.name) =
      List.replicate (after.filterMap (issued? who.name)).length token :=
    List.eq_replicate_of_mem hall
  simp only [Cluster.lastIssued?, List.filterMap_append, List.filterMap_cons, issued?, if_true]
  rw [hrep, ← List.replicate_succ]
  simp [List.getLast?_append, List.getLast?_replicate]

/-! ### Backed records -/

/-- A record under a name is what the history says: its token was issued to its node, and the node
last proved itself when the record says. -/
structure Backed (past : List Entry) (name : String) (node : Node) : Prop where
  name_eq : node.identity.name = name
  issued : Issued past node.identity node.inToken
  heard : ∃ s, node.heardAt = some s ∧ lastProof? name past = some s

/-- All records with a token are backed by the history. -/
def AllBacked (past : List Entry) (c : Cluster) : Prop :=
  ∀ name node, c.nodes.get? name = some node → node.inToken ≠ "" → Backed past name node

lemma allBacked_new (name token : String) : AllBacked [] (new name token) := by
  intro key node hget
  simp [new] at hget

/-- An entry keeps a record backed if it leaves its token alone and the record has the last proof. -/
lemma Backed.snoc {past : List Entry} {name : String} {known node : Node} {entry : Entry}
    (h : Backed past name known) (hid : node.identity = known.identity)
    (hin : node.inToken = known.inToken)
    (hheard : node.heardAt = (proof? name entry).or known.heardAt)
    (hissued : issued? name entry = none) (hstays : ¬ Removes name entry) :
    Backed (past ++ [entry]) name node := by
  obtain ⟨s, hknown, hlast⟩ := h.heard
  refine ⟨by rw [hid, h.name_eq], ?_, ?_⟩
  · rw [hid, hin]
    refine h.issued.snoc ?_ ?_
    · rwa [h.name_eq]
    · simp [h.name_eq, hissued]
  · rw [hheard, lastProof?_snoc, hknown, hlast]
    cases proof? name entry with
    | none => exact ⟨s, rfl, rfl⟩
    | some now => exact ⟨now, rfl, rfl⟩

/-- The record that a registration leaves is backed by it. -/
lemma backed_snoc_register {c : Cluster} {claimed : Identity} {credentials server fresh : String}
    {now : Instant} {r : Registration} (past : List Entry)
    (h : (c.register claimed credentials server fresh now).2 = .ok r) :
    Backed (past ++ [(.register claimed credentials server fresh now, .registration (.ok r))])
      claimed.name (admitted (c.nodes.get? claimed.name) claimed r.token now) := by
  have hid := identity_admitted_of_ok h r.token now
  refine ⟨by rw [hid], ?_, now, by simp, ?_⟩
  · rw [hid, inToken_admitted]
    exact issued_snoc_register past claimed credentials server fresh now r
  · rw [lastProof?_snoc]
    simp [proof?]

/-- After an event the records are backed by the history with its entry. -/
lemma AllBacked.step {past : List Entry} {c : Cluster} (h : AllBacked past c) {e : Event}
    (he : e.IsPlain) : AllBacked (past ++ [(e, (c.step e).2)]) (c.step e).1 := by
  intro name node hget htoken
  have hchange : Change c name (e, (c.step e).2) (some node) := hget ▸ change_step c name e
  rcases hchange.admitted_or_known he htoken with
    ⟨claimed, token, server, fresh, now, r, hentry, rfl, hr, rfl⟩ |
    ⟨known, hknown, hid, hin, hheard, hissued, hstays⟩
  · rw [hentry]
    exact backed_snoc_register past hr
  · have hback : Backed past name known := h name known hknown (by rwa [← hin])
    exact hback.snoc hid hin hheard hissued hstays

/-- In every run from a cluster without nodes, each record with a token is backed by the history. -/
lemma allBacked_run (name token : String) (es : List Event) (hes : ∀ e ∈ es, e.IsPlain) :
    AllBacked ((new name token).history es) ((new name token).run es) := by
  induction es using List.reverseRecOn with
  | nil => exact allBacked_new name token
  | append_singleton es e ih =>
    rw [history_append, run_append]
    exact (ih fun e' he' => hes e' (by simp [he'])).step (hes e (by simp))

/-! ### Authority -/

/-- Whatever happened to a cluster before, a request that it accepts carries the token that a
registration of exactly this node was answered with.  Since then the name was not evicted, erased or
overwritten and no registration of the name was answered with another token, so it is the last token
that the name was given; and the last time that the name proved itself is less than the timeout ago. -/
theorem issued_of_authenticate_eq_ok {name secret : String} {es : List Event}
    (hes : ∀ e ∈ es, e.IsPlain) {claimed : Identity} {token : String} {t : Instant} {n : Node}
    (h : (((new name secret).run es).authenticate claimed token t).2 = .ok n) :
    let past := (new name secret).history es
    token ≠ "" ∧ Issued past claimed token ∧ lastIssued? claimed.name past = some token ∧
      ∃ s, lastProof? claimed.name past = some s ∧ t - s < heartbeatTimeout := by
  intro past
  obtain ⟨node, hget, hf, -⟩ := authenticate_eq_ok_iff.1 h
  obtain ⟨hid, hne, htoken, hage⟩ := credentialFault?_eq_none_iff.1 hf
  have hback : Backed past claimed.name node :=
    allBacked_run name secret es hes claimed.name node hget (by rwa [htoken])
  have hissued : Issued past claimed token := by
    rw [← hid, ← htoken]
    exact hback.issued
  obtain ⟨s, hheard, hproof⟩ := hback.heard
  refine ⟨hne, hissued, hissued.lastIssued?, s, hproof, ?_⟩
  simpa [Instant.isRecent] using hage s hheard

/-- A node that comes back after its lease is given a second token, which takes the place of the first. -/
theorem issued_of_authenticate_eq_ok_second_token :
    let x : Identity := ⟨"x", "10.0.0.2", 5000, "prod"⟩
    let es : List Event :=
      [.store "x" (.fixed x 0), .register x "secret" "server" "first" 0,
        .settle "x" (.ok ⟨some "out", []⟩) 5, .evict (Span.seconds 60),
        .register x "secret" "server" "second" (Span.seconds 61)]
    let past := (new "prod" "secret").history es
    (∀ e ∈ es, e.IsPlain) ∧
      (((new "prod" "secret").run es).authenticate x "second" (Span.seconds 120)).2.toOption.isSome ∧
      Issued past x "second" ∧ lastIssued? "x" past = some "second" ∧
      lastProof? "x" past = some (Span.seconds 61 : Int) := by
  intro x es past
  have hes : ∀ e ∈ es, e.IsPlain := by
    simpa [es, Event.IsPlain] using ⟨x, 0, .inr rfl⟩
  have hok : (((new "prod" "secret").run es).authenticate x "second" (Span.seconds 120)).2.toOption.isSome := by
    decide
  cases h : (((new "prod" "secret").run es).authenticate x "second" (Span.seconds 120)).2 with
  | error e => simp [h, Except.toOption] at hok
  | ok n =>
    obtain ⟨-, hissued, hlast, -⟩ := issued_of_authenticate_eq_ok hes h
    exact ⟨hes, rfl, hissued, hlast, by decide⟩

end Flotilla.Cluster
