import Flotilla.Engine.Memory
import Flotilla.Proofs.EndNode.Events

/-!
# Operations are carried out for authenticated peers only

Whatever happened to a node before, it carries out an operation only for a request that is sealed with
the token of the sender in its header and presents the identity and the token of the record under this
name, whose peer proved itself a short while ago.  To every other request it is as if there were no engine.
-/

namespace Flotilla

open Rpc (Reply Request)

variable {σ : Type}

namespace Running

variable {r : Running σ}

/-! ### Tokens and proofs -/

/-- Every peer that was issued a token has proved itself. -/
def AllProven (r : Running σ) : Prop :=
  ∀ key node, (r.roster .peers).get? key = some node → node.inToken ≠ "" → node.heardAt.isSome = true

/-- The peers that a node starts with were issued no tokens. -/
lemma allProven_start {s : Settings σ} {built : Instant} {n : EndNode σ} (h : s.build built = .ok n) :
    (start n).AllProven := by
  intro key node hget htoken
  cases Settings.descends_build h .peers key node hget with
  | fresh hout hin => exact hin.resolve_left htoken
  | kept hold => simp at hold

variable [ProxyEngine σ] [CertManager σ]

/-- A token is issued to a peer only when it proves itself. -/
lemma AllProven.step (h : r.AllProven) (e : Event) : (r.step e).AllProven := by
  intro key node hget htoken
  rcases r.step_cases e with ⟨hdescends, -⟩ | ⟨place, called, answer, now, c, -, -, hview, -⟩
  · cases hdescends .peers key node hget with
    | fresh hout hin => exact hin.resolve_left htoken
    | @kept old hold hid hout hin =>
      rcases hin with hheard | ⟨hin, hheard⟩
      · exact hheard
      · rw [hheard]
        exact h key old hold (by rwa [← hin])
  · rw [roster, hview] at hget
    rcases PeerView.get?_settle hget with ⟨peer, rfl⟩ | ⟨old, hold, rfl⟩
    · exact absurd rfl htoken
    · split_ifs at htoken ⊢
      · rw [Contact.inToken_settled] at htoken
        rw [Contact.heardAt_settled]
        exact h key old hold htoken
      · exact h key old hold htoken

/-- Every peer with a token has proved itself, whatever has happened; the induction is on the events. -/
lemma AllProven.run (h : r.AllProven) (es : List Event) : (r.run es).AllProven := by
  induction es generalizing r with
  | nil => exact h
  | cons e es ih => exact ih (h.step e)

end Running

namespace EndNode

variable [ProxyEngine σ] [CertManager σ]

/-- In a node that was built and ran, a record with a token has had a signal. -/
lemma Reached.isSome_heardAt {n : EndNode σ} (h : n.Reached) {key : String} {node : Node}
    (hget : n.view.cluster.nodes.get? key = some node) (htoken : node.inToken ≠ "") :
    node.heardAt.isSome = true := by
  obtain ⟨s, built, first, es, hbuild, rfl⟩ := h
  exact (Running.allProven_start hbuild).run es key node hget htoken

/-! ### Mediation -/

/-- An operation is carried out for an admitted request only.  Such a request changes nothing of what the
node sees but the last signal of its sender, whose name leaves the quarantine; any other one is refused
the same way whatever the engine is, and leaves the engine and all records as they were. -/
theorem serve_operate_mediated (n : EndNode σ) (o : Operation) (e : Envelope) (fresh : String)
    (now : Instant) :
    (∃ known r, n.view.Admits o e now known r ∧
      (n.Reached → ∃ s, known.heardAt = some s ∧ now - s < heartbeatTimeout) ∧
      n.serve (.operate o) e fresh now =
        ({ n with
            view.cluster.nodes := n.view.cluster.nodes.insert e.sender { known with heardAt := some now }
            view.cluster.quarantine := n.view.cluster.quarantine.erase e.sender
            engine := (r.perform o now n.engine).1 },
          .ok ((r.perform o now n.engine).2.close .node known.inToken n.view.cluster.name
            n.view.this.name (.operate o)))) ∨
    (∀ known r, ¬ n.view.Admits o e now known r) ∧
      ∃ nodes answer, nodes.entries = n.view.cluster.nodes.entries ∧ n.view.Refuses o e answer ∧
        ∀ {τ : Type} [ProxyEngine τ] [CertManager τ] (engine : τ),
          EndNode.serve { n with engine } (.operate o) e fresh now =
            ({ n with view.cluster.nodes := nodes, engine }, answer) := by
  by_cases hadmits : ∃ known r, n.view.Admits o e now known r
  · obtain ⟨known, r, h⟩ := hadmits
    refine .inl ⟨known, r, h, fun hreached => ?_, ?_⟩
    · have hheard := hreached.isSome_heardAt h.get?_eq h.proves.inToken_ne
      obtain ⟨s, hs⟩ := Option.isSome_iff_exists.1 hheard
      have hrecent : s.isRecent now = true := h.proves.isRecent s hs
      exact ⟨s, hs, by simpa [Instant.isRecent] using hrecent⟩
    · simp only [serve, PeerView.serveOperation_of_admits h]
      rfl
  · have hnot : ∀ known r, ¬ n.view.Admits o e now known r := fun known r h => hadmits ⟨known, r, h⟩
    obtain ⟨nodes, answer, hentries, hrefuses, hserve⟩ := PeerView.serveOperation_of_not_admits hnot
    refine .inr ⟨hnot, nodes, answer, hentries, hrefuses, fun engine => ?_⟩
    simp only [serve, hserve]

/-! ### A query -/

/-- The settings of a node with an engine and without peers. -/
def keeper : Settings MemoryEngine := .new ⟨"a", "k", 5000, "c"⟩ "s" .empty

lemma build_keeper : keeper.build 0 = .ok (keeper.built 0) := Settings.build_eq_ok (by decide +kernel)

def client : Identity := ⟨"x", "h", 5000, "c"⟩

/-- Its registration, sealed with the token `s` of the cluster. -/
def sealedRegistration : Envelope :=
  ⟨"c", "x", 0,
    [104, 127, 123, 166, 253, 134, 147, 12, 125, 0, 83, 217, 3, 15, 4, 40, 203, 205, 41, 140, 108, 69, 149,
      183, 233, 232, 192, 240, 193, 200, 216, 35, 137, 50, 82, 10, 168, 247, 31, 11, 231, 60, 195, 28, 218, 216,
      118, 10, 207, 246, 254, 219, 125, 214, 241, 226, 59, 55, 166, 172, 227, 45, 177, 178]⟩

/-- Its query of the traffic counters, sealed with the token `t` that it is issued. -/
def sealedQuery : Envelope :=
  ⟨"c", "x", 1,
    [142, 30, 223, 14, 159, 196, 124, 20, 177, 133, 229, 63, 239, 186, 150, 219, 168, 35, 188, 118, 162, 52,
      170, 201, 229, 111, 131, 119, 37, 71, 244, 107, 219, 79, 237, 239, 85, 125, 161, 17, 100, 117, 41, 42, 36,
      204, 23, 65, 183, 31, 217, 172, 252, 21, 38, 161, 32, 59, 100, 63, 142, 29, 181, 188]⟩

lemma open_sealedRegistration :
    Request.open? "s" .register sealedRegistration = .ok ⟨some (.of "s" client), .register⟩ := by
  decide +kernel

lemma open_sealedQuery :
    Request.open? "t" (.operate .getStats) sealedQuery =
      .ok ⟨some (.of "t" client), .operate (.getStats "" false)⟩ := by
  decide +kernel

lemma cluster_serve_register {n : EndNode σ} {e : Envelope} {r : Request} {fresh : String} {now : Instant}
    (h : Request.open? n.view.cluster.token .register e = .ok r) :
    (n.serve .register e fresh now).1.view.cluster =
      (n.view.cluster.answerRegister n.view.this.name r fresh now).1 := by
  simp only [serve, PeerView.serveRegister, Cluster.serveRegister_of_opened h]

def keeping : EndNode MemoryEngine := ((keeper.built 0).serve .register sealedRegistration "t" 0).1

lemma reached_keeping : keeping.Reached := by
  rw [keeping]
  exact (reached_of_build build_keeper).serve .register sealedRegistration "t" 0

lemma get?_keeping : keeping.view.cluster.nodes.get? "x" = some (.registered client "t" 0) := by
  have htoken : (keeper.built 0).view.cluster.token = "s" := by decide +kernel
  have hopen : Request.open? (keeper.built 0).view.cluster.token .register sealedRegistration =
      .ok ⟨some (.of "s" client), .register⟩ := by
    rw [htoken, open_sealedRegistration]
  rw [keeping, cluster_serve_register hopen]
  decide +kernel

/-- Just before its token expires the peer asks for the traffic counters. -/
theorem serve_operate_mediated_query :
    let now : Instant := Span.seconds 60 - 1
    keeping.Reached ∧
      (keeping.serve (.operate .getStats) sealedQuery "" now).1.view.cluster.nodes.get? "x" =
        some { Node.registered client "t" 0 with heardAt := some now } := by
  intro now
  refine ⟨reached_keeping, ?_⟩
  have hmediated := serve_operate_mediated keeping .getStats sealedQuery "" now
  have hget := get?_keeping
  -- what the node is otherwise does not matter, and takes long to compute
  generalize keeping = n at hmediated hget ⊢
  have hadmits : n.view.Admits .getStats sealedQuery now (.registered client "t" 0)
      ⟨some (.of "t" client), .operate (.getStats "" false)⟩ :=
    ⟨hget, open_sealedQuery, rfl, rfl, by decide, by decide, by decide⟩
  rcases hmediated with ⟨known, r, h, -, hserve⟩ | ⟨hnot, -⟩
  · obtain rfl : known = .registered client "t" 0 := Option.some.inj (h.get?_eq.symm.trans hget)
    rw [hserve]
    exact (Roster.get?_insert ..).trans (if_pos rfl)
  · exact absurd hadmits (hnot _ _)

end EndNode

end Flotilla
