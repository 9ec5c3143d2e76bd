import Flotilla.Proofs.EndNode.Edits
import Flotilla.Proofs.EndNode.Restart
import Flotilla.Proofs.EndNode.Stability

/-!
# The stored list and the local peers

An edit writes the list in the store and then changes the roster, and anything may happen to the node
before, between and after its steps.  Nothing but an edit makes a peer local or takes a local one away, so
that after each edit the local peers are those of the list again.
-/

namespace Flotilla

open Rpc (Answer Method)

/-! ### Local peers -/

/-- Who a record is about if it is local. -/
def Node.localIdentity? (node : Node) : Option Identity := if node.isLocal then some node.identity else none

namespace Roster

/-- The local peer under a name, if there is one. -/
def localAt (r : Roster) (name : String) : Option Identity := (r.get? name).bind Node.localIdentity?

def localPeers (r : Roster) : Set StaticNode :=
  {e | ∃ key node, r.get? key = some node ∧ node.isLocal = true ∧
    (⟨node.name, node.identity.host, node.identity.port⟩ : StaticNode) = e}

lemma localAt_eq_some_iff {r : Roster} {name : String} {who : Identity} :
    r.localAt name = some who ↔
      ∃ node, r.get? name = some node ∧ node.isLocal = true ∧ node.identity = who := by
  simp [localAt, Node.localIdentity?, Option.bind_eq_some_iff]

lemma localAt_of_get? {r : Roster} {name : String} {node : Node} (h : r.get? name = some node)
    (hlocal : node.isLocal = true) : r.localAt name = some node.identity :=
  localAt_eq_some_iff.2 ⟨node, h, hlocal, rfl⟩

lemma localAt_congr {r r' : Roster} {name : String} (h : r.get? name = r'.get? name) :
    r.localAt name = r'.localAt name := by
  rw [localAt, h, localAt]

/-- The local peers are the entries that count if each name is that of a local peer as the list has it. -/
lemma localPeers_eq_effective {r : Roster} {entries : List StaticNode} {this : Identity}
    (h : ∀ name, r.localAt name = (StaticNode.latest? name entries).map (·.identity this)) :
    r.localPeers = StaticNode.effective entries := by
  ext e
  constructor
  · rintro ⟨key, node, hget, hlocal, rfl⟩
    have hkey := (h key).symm.trans (localAt_of_get? hget hlocal)
    obtain ⟨e, hlatest, hid⟩ := Option.map_eq_some_iff.1 hkey
    change StaticNode.latest? node.identity.name entries = some ⟨node.identity.name, _, _⟩
    rw [← hid]
    obtain rfl := StaticNode.name_of_latest? hlatest
    exact hlatest
  · intro hlatest
    have hlocal : r.localAt e.name = some (e.identity this) := by
      rw [h e.name, show StaticNode.latest? e.name entries = some e from hlatest]
      rfl
    obtain ⟨node, hget, hlocal, hid⟩ := localAt_eq_some_iff.1 hlocal
    exact ⟨e.name, node, hget, hlocal, by rw [Node.name, hid]; rfl⟩

end Roster

/-! ### Traffic -/

namespace Cluster

/-- Nothing but a direct edit makes a peer local or takes a local peer away. -/
lemma localAt_step (c : Cluster) {e : Event} (he : e.IsProtocol) (name : String) :
    (c.step e).1.nodes.localAt name = c.nodes.localAt name := by
  have hchange := change_step c name e
  unfold Roster.localAt
  generalize (c.step e).1.nodes.get? name = after at hchange
  generalize hentry : (e, (c.step e).2) = entry at hchange
  cases hchange with
  | admitted hname hr =>
    cases hknown : c.nodes.get? name with
    | none => rfl
    | some node => rfl
  | authenticated hname hget | greeted hname hget =>
    rw [hget]
    rfl
  | @dropped now names node hmem hget hstale =>
    have hlocal := (Node.survivesAt_eq_false_iff.1 hstale).isLocal_eq
    simp [hget, Node.localIdentity?, hlocal]
  | learned hname hget =>
    rw [hget]
    rfl
  | settled outcome now => cases c.nodes.get? name <;> simp [Node.localIdentity?]
  | stored | erased | replaced =>
    obtain ⟨rfl, -⟩ := Prod.mk.inj hentry
    exact he.elim
  | kept => rfl

/-- The protocol makes no peer local, and no local peer remote. -/
lemma localAt_run (c : Cluster) {es : List Event} (hes : ∀ e ∈ es, e.IsProtocol) (name : String) :
    (c.run es).nodes.localAt name = c.nodes.localAt name := by
  induction es generalizing c with
  | nil => rfl
  | cons e es ih =>
    rw [run_cons, ih _ fun e' he' => hes e' (List.mem_cons_of_mem e he')]
    exact c.localAt_step (hes e List.mem_cons_self) name

end Cluster

variable {σ : Type}

namespace Running

variable {r : Running σ} {e : Event}

/-! ### Steps of an edit -/

def recorded (r : Running σ) (edit : StaticEdit) : Running σ := { r with node := (r.node.record edit).1 }

/-- The next step of a recorded edit on the roster, and what is left then. -/
def advance (r : Running σ) (now : Instant) (stage : Stage) : Running σ × Stage :=
  let (nodes, stage) := stage.step now (r.roster .peers)
  ({ r with node.view.cluster.nodes := nodes }, stage)

/-! ### Traffic -/

lemma Causes.isProtocol {e' : Cluster.Event} (h : r.Causes e e') (he : e.IsProtocol) : e'.IsProtocol := by
  cases h with
  | promote | store | erase => exact he.elim
  | isolate | register | heartbeat | authenticate | settle | tell | merge | evict => trivial

variable [ProxyEngine σ] [CertManager σ]

/-- Traffic leaves the local peers alone. -/
lemma localAt_step (he : e.IsProtocol) (name : String) :
    ((r.step e).roster .peers).localAt name = (r.roster .peers).localAt name := by
  obtain ⟨es, hes, hcluster⟩ := r.comesDown e
  change (r.step e).node.view.cluster.nodes.localAt name = _
  rw [hcluster]
  exact r.node.view.cluster.localAt_run (fun e' he' => (hes e' he').isProtocol he) name

lemma this_run (r : Running σ) (es : List Event) : (r.run es).node.this = r.node.this := by
  induction es generalizing r with
  | nil => rfl
  | cons e es ih => exact (ih (r.step e)).trans (r.this_step e)

/-- The protocol does not write to the store. -/
lemma store_step (he : e.IsProtocol) : (r.step e).node.store = r.node.store := by
  cases e with
  | serve m e fresh now => cases m <;> rfl
  | land place called answer now =>
    simp only [step]
    split <;> rfl
  | plan | merge | evict => rfl
  | addLocal | deleteNode | setCenter => exact he.elim

/-! ### Edits with traffic between their steps -/

/-- Carries out a recorded edit on the roster; `gap` happens after its first step if it takes another one. -/
def carryOut (r : Running σ) (stage : Stage) (gap : List Event) (now : Instant) : Running σ :=
  let first := r.advance now stage
  if first.2 = .done then first.1 else ((first.1.run gap).advance now first.2).1

/-- An edit during which the node goes on: `gap` happens after the edit has been recorded, and `gap'` between
its steps on the roster. -/
def call (r : Running σ) (edit : StaticEdit) (gap gap' : List Event) (now : Instant) :
    Except ConfigError (Running σ) :=
  (r.node.record edit).2.map fun _ => ((r.recorded edit).run gap).carryOut (edit.stage r.node.this) gap' now

/-- Without traffic between its steps, an edit is what the node does in one go. -/
lemma call_nil (r : Running σ) (edit : StaticEdit) (now : Instant) : r.call edit [] [] now =
    (r.node.edit now edit).2.map fun _ => { r with node := (r.node.edit now edit).1 } := by
  have hview := r.node.view_record edit
  have hedit := r.node.edit_eq now edit
  rw [call, hedit]
  cases hrecord : r.node.record edit with
  | mk n result =>
    cases result with
    | error fault => rfl
    | ok u =>
      have hthis : r.node.this = n.this := congrArg PeerView.this (hrecord ▸ hview).symm
      simp only [Except.map, recorded, hrecord, run_nil, carryOut, advance, roster, PeerView.roster, hthis,
        Stage.finish]
      cases hstep : (edit.stage n.this).step now n.view.cluster.nodes with
      | mk nodes stage => cases stage <;> rfl

/-! ### What an edit leaves -/

end Running

/-- What a call leaves of the record under the name of its edit, as it finds it. -/
inductive StaticEdit.Leaves (this : Identity) (now : Instant) :
    StaticEdit → Option Node → Option Node → Prop where
  | promoted {entry : StaticNode} {node : Node} (hid : node.identity = entry.identity this) :
      Leaves this now (.add entry) (some node) (some { node with isLocal := true })
  | replaced {entry : StaticNode} {known : Option Node}
      (hid : ∀ node, known = some node → node.identity ≠ entry.identity this) :
      Leaves this now (.add entry) known (some (.fixed (entry.identity this) now))
  | erased {name : String} {known : Option Node} : Leaves this now (.delete name) known none

namespace StaticEdit

variable {edit : StaticEdit} {entries : List StaticNode} {this : Identity}

lemma isAbout_stage (edit : StaticEdit) (this : Identity) : (edit.stage this).IsAbout edit.name := by
  cases edit <;> rfl

/-- An edit decides on the entry of its own name only. -/
lemma latest?_apply (edit : StaticEdit) (entries : List StaticNode) (name : String) :
    StaticNode.latest? name (edit.apply entries) =
      if edit.name = name then edit.entries.head? else StaticNode.latest? name entries := by
  by_cases hname : edit.name = name
  · rw [if_pos hname]
    cases edit with
    | add entry => exact StaticNode.latest?_append_singleton.trans (if_pos hname)
    | delete erased =>
      rw [apply, StaticEdit.entries, List.append_nil, StaticNode.latest?_without, if_pos hname]
      rfl
  · rw [if_neg hname]
    cases edit with
    | add entry =>
      exact StaticNode.latest?_append_singleton.trans ((if_neg hname).trans
        ((StaticNode.latest?_without _).trans (if_neg hname)))
    | delete erased =>
      rw [apply, StaticEdit.entries, List.append_nil, StaticNode.latest?_without, if_neg hname]

/-- An edit adds no entry that would be refused. -/
lemma valid_apply (hvalid : ∀ e ∈ entries, e.fault? this = none) (hfault : edit.fault? this = none) :
    ∀ e ∈ edit.apply entries, e.fault? this = none := by
  intro e he
  rcases List.mem_append.1 he with hmem | hmem
  · exact hvalid e (List.mem_filter.1 hmem).1
  · cases edit with
    | add entry =>
      obtain rfl := List.mem_singleton.1 hmem
      simpa [fault?] using hfault
    | delete name => cases hmem

/-- The list has the entries of the edit under its name, and the others as they were. -/
lemma filter_apply (edit : StaticEdit) (entries : List StaticNode) :
    (edit.apply entries).filter (·.name == edit.name) = edit.entries ∧
      (edit.apply entries).filter (·.name != edit.name) = entries.filter (·.name != edit.name) := by
  have hentries : ∀ e ∈ edit.entries, e.name = edit.name := by
    cases edit with
    | add entry => simp [StaticEdit.entries, StaticEdit.name]
    | delete name => nofun
  simp only [apply, Store.without, List.filter_append, List.filter_filter]
  constructor
  · rw [List.filter_eq_nil_iff.2 fun e _ => by simp, List.nil_append]
    exact List.filter_eq_self.2 fun e he => by simpa using hentries e he
  · have hnone : edit.entries.filter (·.name != edit.name) = [] :=
      List.filter_eq_nil_iff.2 fun e he => by simp [hentries e he]
    rw [hnone, List.append_nil]
    simp

/-- The entries of other names stay, in their order. -/
lemma filter_name_apply (edit : StaticEdit) (entries : List StaticNode) (name : String) :
    (edit.apply entries).filter (·.name == name) =
      if edit.name = name then edit.entries else entries.filter (·.name == name) := by
  obtain ⟨hnamed, hothers⟩ := edit.filter_apply entries
  split_ifs with hname
  · rw [← hname]
    exact hnamed
  · have hfilter (l : List StaticNode) :
        (l.filter (·.name != edit.name)).filter (·.name == name) = l.filter (·.name == name) := by
      rw [List.filter_filter]
      refine List.filter_congr fun e _ => ?_
      by_cases he : e.name = name
      · simp [he, Ne.symm hname]
      · simp [he]
    rw [← hfilter, hothers, hfilter]

/-- An edit leaves the local peer under its name as it puts it in the list. -/
lemma Leaves.localIdentity?_eq {now : Instant} {known left : Option Node}
    (h : edit.Leaves this now known left) :
    left.bind Node.localIdentity? = edit.entries.head?.map (·.identity this) := by
  cases h with
  | promoted hid => exact congrArg some hid
  | replaced | erased => rfl

end StaticEdit

namespace Running

/-! ### The list and the local peers -/

/-- The store can be read, there is no fault in what it lists, and the local peers are those of the list,
apart from a name that is being edited. -/
structure InStep (r : Running σ) (pending : Option String) (s : Store) (entries : List StaticNode) :
    Prop where
  store_eq : r.node.store = some s
  list_eq : s.staticList = .ok entries
  valid : ∀ e ∈ entries, e.fault? r.node.this = none
  peers : ∀ name, pending ≠ some name → (r.roster .peers).localAt name =
    (StaticNode.latest? name entries).map (·.identity r.node.this)

namespace InStep

variable {r : Running σ} {pending : Option String} {s : Store} {entries : List StaticNode}
  {edit : StaticEdit} {name : String} {stage : Stage}

/-- An edit that is recorded is ahead of the roster in its own name only. -/
lemma recorded (h : r.InStep none s entries) (hrecord : (r.node.record edit).2 = .ok ()) :
    ∃ s', (r.recorded edit).InStep (some edit.name) s' (edit.apply entries) ∧
      (s' = s ∨ s' = (s.withStatic (edit.apply entries)).flushed) := by
  have hview := r.node.view_record edit
  have hrecorded := r.node.recorded_record edit
  have hnode : (r.recorded edit).node = (r.node.record edit).1 := rfl
  have hthis : (r.recorded edit).node.this = r.node.this := congrArg PeerView.this hview
  have hroster : (r.recorded edit).roster .peers = r.roster .peers :=
    congrArg (fun v : PeerView => v.cluster.nodes) hview
  -- the checks and the peers are the same in all cases; the store is not
  have hkeeps {s' : Store} (hstore : (r.recorded edit).node.store = some s')
      (hlist : s'.staticList = .ok (edit.apply entries)) (hfault : edit.fault? r.node.this = none) :
      (r.recorded edit).InStep (some edit.name) s' (edit.apply entries) := by
    refine ⟨hstore, hlist, ?_, fun name hname => ?_⟩
    · rw [hthis]
      exact StaticEdit.valid_apply h.valid hfault
    · rw [hthis, hroster, h.peers name nofun, StaticEdit.latest?_apply,
        if_neg fun heq => hname (congrArg some heq)]
  generalize hx : r.node.record edit = x at hrecord hrecorded
  rw [hx] at hnode
  obtain ⟨n, result⟩ := x
  obtain rfl : result = .ok () := hrecord
  cases hrecorded with
  | storeless hfault hstore =>
    rw [h.store_eq] at hstore
    cases hstore
  | written hfault hstore hrecorded =>
    cases h.store_eq.symm.trans hstore
    have hstored := congrArg EndNode.store hnode
    cases hrecorded with
    | unlisted hlist hsame =>
      cases h.list_eq.symm.trans hlist
      rw [hsame] at hkeeps ⊢
      exact ⟨s, hkeeps hstored hlist hfault, .inl rfl⟩
    | saved hlist =>
      cases h.list_eq.symm.trans hlist
      exact ⟨_, hkeeps hstored (by simp) hfault, .inr rfl⟩

/-- A step on the roster touches the record under the name of the edit only. -/
lemma advance (h : r.InStep (some name) s entries) (habout : stage.IsAbout name) (now : Instant) :
    (r.advance now stage).1.InStep (some name) s entries := by
  refine ⟨h.store_eq, h.list_eq, h.valid, fun key hkey => ?_⟩
  have hsame : ((r.advance now stage).1.roster .peers).get? key = (r.roster .peers).get? key :=
    Stage.get?_step_of_ne now _ habout fun heq => hkey (congrArg some heq)
  rw [Roster.localAt_congr hsame]
  exact h.peers key hkey

/-- Once the roster is as the list has it in the name of the edit, too, all is in step. -/
lemma finish (h : r.InStep (some name) s entries) (hname : (r.roster .peers).localAt name =
    (StaticNode.latest? name entries).map (·.identity r.node.this)) : r.InStep none s entries where
  store_eq := h.store_eq
  list_eq := h.list_eq
  valid := h.valid
  peers key _ := by
    by_cases hkey : name = key
    · exact hkey ▸ hname
    · exact h.peers key fun heq => hkey (Option.some.inj heq)

/-- What an edit leaves under its name is what the list has there. -/
lemma finish_of_leaves {now : Instant} {found : Option Node}
    (h : r.InStep (some edit.name) s (edit.apply entries))
    (hleaves : edit.Leaves r.node.this now found ((r.roster .peers).get? edit.name)) :
    r.InStep none s (edit.apply entries) := by
  refine h.finish ?_
  rw [Roster.localAt, StaticEdit.latest?_apply, if_pos rfl]
  exact hleaves.localIdentity?_eq

/-- A node that is built from a store alone is in step with it. -/
lemma of_build {settings : Settings σ} {built : Instant} {n : EndNode σ}
    (hbuild : settings.build built = .ok n) (hstatic : settings.staticNodes = [])
    (hstore : settings.store = some s) :
    n.this = settings.this ∧ ∃ entries, (start n).InStep none s entries := by
  obtain ⟨entries, hlist, hvalid, hthis, hstore', hget⟩ :=
    Settings.exists_staticList_of_build hbuild hstatic hstore
  refine ⟨hthis, entries, hstore', hlist, hthis ▸ hvalid, fun name _ => ?_⟩
  have hstart : ((start n).roster .peers).localAt name =
      (n.view.cluster.nodes.get? name).bind Node.localIdentity? := rfl
  rw [hstart, hget name, show (start n).node.this = settings.this from hthis]
  cases StaticNode.latest? name entries <;> rfl

variable [ProxyEngine σ] [CertManager σ]

/-- The protocol keeps a node in step. -/
lemma step {e : Event} (h : r.InStep pending s entries) (he : e.IsProtocol) :
    (r.step e).InStep pending s entries where
  store_eq := (store_step he).trans h.store_eq
  list_eq := h.list_eq
  valid := by
    rw [this_step]
    exact h.valid
  peers name hname := by
    rw [this_step, localAt_step he]
    exact h.peers name hname

/-- Traffic keeps the list and the local peers in step. -/
lemma run {es : List Event} (h : r.InStep pending s entries) (hes : ∀ e ∈ es, e.IsProtocol) :
    (r.run es).InStep pending s entries := by
  induction es generalizing r with
  | nil => exact h
  | cons e es ih =>
    exact ih (h.step (hes e List.mem_cons_self)) fun e' he' => hes e' (List.mem_cons_of_mem e he')

/-- What carrying out an edit leaves under its name, and what it leaves alone, whatever happens between its
steps. -/
lemma carryOut {gap : List Event} (h : r.InStep (some edit.name) s entries) (hgap : ∀ e ∈ gap, e.IsProtocol)
    (now : Instant) :
    (r.carryOut (edit.stage r.node.this) gap now).InStep (some edit.name) s entries ∧
      (r.carryOut (edit.stage r.node.this) gap now).node.this = r.node.this ∧
      edit.Leaves r.node.this now ((r.roster .peers).get? edit.name)
        (((r.carryOut (edit.stage r.node.this) gap now).roster .peers).get? edit.name) := by
  have habout := edit.isAbout_stage r.node.this
  have hfirst := h.advance habout now
  have hthis : (r.advance now (edit.stage r.node.this)).1.node.this = r.node.this := rfl
  have hadvance : (edit.stage r.node.this).Advance now ((r.roster .peers).get? edit.name)
      (((r.advance now (edit.stage r.node.this)).1.roster .peers).get? edit.name)
      (r.advance now (edit.stage r.node.this)).2 := Stage.advance_step now _ habout
  rw [Running.carryOut]
  generalize r.advance now (edit.stage r.node.this) = first at hfirst hadvance hthis
  obtain ⟨last, stage⟩ := first
  simp only at hfirst hadvance hthis ⊢
  generalize (r.roster .peers).get? edit.name = found at hadvance ⊢
  generalize hleft : (last.roster .peers).get? edit.name = left at hadvance
  cases edit with
  | add entry =>
    simp only [StaticEdit.stage] at hadvance
    cases hadvance with
    | promoted hid =>
      rw [if_pos rfl, hleft]
      exact ⟨hfirst, hthis, .promoted hid⟩
    | differs hid =>
      rw [if_neg (by simp)]
      have habout' : (Stage.placing (entry.identity r.node.this)).IsAbout (StaticEdit.add entry).name := rfl
      have hplaced : (((last.run gap).advance now (.placing (entry.identity r.node.this))).1.roster
          .peers).get? (StaticEdit.add entry).name = some (.fixed (entry.identity r.node.this) now) :=
        (Roster.get?_insert ..).trans (if_pos rfl)
      rw [hplaced]
      exact ⟨(hfirst.run hgap).advance habout' now, (this_run last gap).trans hthis, .replaced hid⟩
  | delete name =>
    simp only [StaticEdit.stage] at hadvance
    cases hadvance with
    | erased =>
      rw [if_pos rfl, hleft]
      exact ⟨hfirst, hthis, .erased⟩

/-- A call brings the list and the local peers in step again, whatever happens between its steps. -/
lemma call {gap gap' : List Event} {now : Instant} {r' : Running σ} (h : r.InStep none s entries)
    (hgap : ∀ e ∈ gap, e.IsProtocol) (hgap' : ∀ e ∈ gap', e.IsProtocol)
    (hcall : r.call edit gap gap' now = .ok r') :
    ∃ s', r'.InStep none s' (edit.apply entries) ∧
      (s' = s ∨ s' = (s.withStatic (edit.apply entries)).flushed) ∧ r'.node.this = r.node.this ∧
      edit.Leaves r.node.this now ((((r.recorded edit).run gap).roster .peers).get? edit.name)
        ((r'.roster .peers).get? edit.name) := by
  cases hrecord : (r.node.record edit).2 with
  | error fault =>
    rw [Running.call, hrecord] at hcall
    cases hcall
  | ok u =>
    obtain ⟨s', hrecorded, hs'⟩ := h.recorded hrecord
    have hthis : ((r.recorded edit).run gap).node.this = r.node.this :=
      (this_run _ gap).trans (congrArg PeerView.this (r.node.view_record edit))
    obtain ⟨hlast, hthis', hleaves⟩ := (hrecorded.run hgap).carryOut hgap' now
    rw [Running.call, hrecord] at hcall
    have hr' : ((r.recorded edit).run gap).carryOut (edit.stage r.node.this) gap' now = r' :=
      Except.ok.inj hcall
    rw [hthis, hr'] at hlast hthis' hleaves
    exact ⟨s', hlast.finish_of_leaves (hthis'.symm ▸ hleaves), hs', hthis', hleaves⟩

end InStep

/-! ### Runs -/

/-- What may happen to a node whose store nobody else writes. -/
inductive Episode where
  | traffic (e : Event)
  | call (edit : StaticEdit) (gap gap' : List Event) (now : Instant)

/-- There are no edits but the calls. -/
def Episode.IsOrdinary : Episode → Prop
  | .traffic e => e.IsProtocol
  | .call _ gap gap' _ => (∀ e ∈ gap, e.IsProtocol) ∧ ∀ e ∈ gap', e.IsProtocol

variable [ProxyEngine σ] [CertManager σ]

/-- The node after some episodes, if all calls succeed. -/
def play (r : Running σ) : List Episode → Except ConfigError (Running σ)
  | [] => .ok r
  | .traffic e :: episodes => (r.step e).play episodes
  | .call edit gap gap' now :: episodes => r.call edit gap gap' now >>= fun r => r.play episodes

namespace InStep

variable {r r' : Running σ} {s : Store} {entries : List StaticNode}

/-- Through all episodes the list and the local peers are in step, and the rest of the store stays. -/
lemma play {episodes : List Episode} (h : r.InStep none s entries)
    (hordinary : ∀ e ∈ episodes, e.IsOrdinary) (hplay : r.play episodes = .ok r') :
    ∃ s' entries', r'.InStep none s' entries' ∧ Settings.AgreeApart s s' ∧ (s.IsSaved → s'.IsSaved) ∧
      r'.node.this = r.node.this := by
  induction episodes generalizing r s entries with
  | nil =>
    cases hplay
    exact ⟨s, entries, h, .refl s, id, rfl⟩
  | cons episode episodes ih =>
    have hrest : ∀ e ∈ episodes, e.IsOrdinary := fun e he => hordinary e (List.mem_cons_of_mem episode he)
    have hfirst := hordinary episode List.mem_cons_self
    cases episode with
    | traffic e =>
      obtain ⟨s', entries', h', hagree, hsaved, hthis⟩ := ih (h.step hfirst) hrest hplay
      exact ⟨s', entries', h', hagree, hsaved, hthis.trans (r.this_step e)⟩
    | call edit gap gap' now =>
      obtain ⟨mid, hcall, hplay⟩ := exists_of_bind_eq_ok hplay
      obtain ⟨s₁, hmid, hs₁, hthis₁, -⟩ := h.call hfirst.1 hfirst.2 hcall
      have hstore : Settings.AgreeApart s s₁ ∧ (s.IsSaved → s₁.IsSaved) := by
        rcases hs₁ with rfl | rfl
        · exact ⟨.refl s₁, id⟩
        · exact ⟨Settings.agreeApart_flushed_withStatic s _, fun hs => hs.flushed_withStatic _⟩
      obtain ⟨s', entries', h', hagree, hsaved, hthis⟩ := ih hmid hrest hplay
      exact ⟨s', entries', h', hstore.1.trans hagree, hsaved ∘ hstore.2, hthis.trans hthis₁⟩

end InStep

/-- A node is built with a store and no other static peers, and then it runs for a while; peers are added and
deleted, each time with success, and whatever else happens to the node may happen between the steps of a
call, too.  After each call the local peers are those that the store lists, the last one of each name, and a
node that is built from this store, or from its file as far as documents are read as they were written, has
just these peers.  An added entry is the only one of its name in the list, a deleted name has none, and the
other entries are as they were; a known peer that is added keeps its record, and a deleted one has none.  A
call with nothing between its steps is the edit that the node makes in one go. -/
theorem inStep_of_play {settings : Settings σ} {store : Store} {built : Instant} {n : EndNode σ}
    (hstatic : settings.staticNodes = []) (hstore : settings.store = some store)
    (hbuild : settings.build built = .ok n) {episodes : List Episode}
    (hordinary : ∀ e ∈ episodes, e.IsOrdinary) {r : Running σ}
    (hplay : (start n).play episodes = .ok r) :
    ∃ stored entries, r.node.store = some stored ∧ stored.staticList = .ok entries ∧
      (r.roster .peers).localPeers = StaticNode.effective entries ∧
      (∀ now, ∃ fresh, { settings with store := some stored }.build now = .ok fresh ∧
        fresh.view.cluster.nodes.localPeers = StaticNode.effective entries ∧
        ∀ key node, fresh.view.cluster.nodes.get? key = some node → node.isLocal = true) ∧
      (Settings.ofStore store settings.engine = .ok settings →
        Settings.ofStore stored settings.engine = .ok { settings with store := some stored }) ∧
      (store.reopen = .ok store → Toml.parse? (Toml.render stored.entries) = some stored.entries →
        stored.reopen = .ok stored) ∧
      (∀ edit now, r.call edit [] [] now =
        (r.node.edit now edit).2.map fun _ => { r with node := (r.node.edit now edit).1 }) ∧
      ∀ edit gap gap' now r', (∀ e ∈ gap, e.IsProtocol) → (∀ e ∈ gap', e.IsProtocol) →
        r.call edit gap gap' now = .ok r' →
        ∃ stored' entries', r'.node.store = some stored' ∧ stored'.staticList = .ok entries' ∧
          entries'.filter (·.name == edit.name) = edit.entries ∧
          entries'.filter (·.name != edit.name) = entries.filter (·.name != edit.name) ∧
          edit.Leaves settings.this now ((((r.recorded edit).run gap).roster .peers).get? edit.name)
            ((r'.roster .peers).get? edit.name) := by
  obtain ⟨hthis, first, hfirst⟩ := InStep.of_build hbuild hstatic hstore
  obtain ⟨stored, entries, h, hagree, hsaved, hthis'⟩ := hfirst.play hordinary hplay
  have hthis : r.node.this = settings.this := hthis'.trans hthis
  refine ⟨stored, entries, h.store_eq, h.list_eq,
    Roster.localPeers_eq_effective fun name => h.peers name nofun, fun now => ?_, hagree.ofStore_eq_ok,
    fun hreopen hdocument => (hsaved (Store.isSaved_of_reopen hreopen)).reopen_eq_ok hdocument,
    r.call_nil, ?_⟩
  · obtain ⟨fresh, hfresh, -, -, hget⟩ :=
      Settings.exists_build hbuild hstatic h.list_eq (hthis ▸ h.valid) now
    have hlocal : ∀ name, fresh.view.cluster.nodes.localAt name =
        (StaticNode.latest? name entries).map (·.identity settings.this) := by
      intro name
      rw [Roster.localAt, hget name]
      cases StaticNode.latest? name entries <;> rfl
    refine ⟨fresh, hfresh, Roster.localPeers_eq_effective hlocal, ?_⟩
    intro key node hnode
    rw [hget key] at hnode
    obtain ⟨e, -, rfl⟩ := Option.map_eq_some_iff.1 hnode
    rfl
  · intro edit gap gap' now r' hgap hgap' hcall
    obtain ⟨stored', h', -, -, hleaves⟩ := h.call hgap hgap' hcall
    obtain ⟨hnamed, hothers⟩ := edit.filter_apply entries
    exact ⟨stored', edit.apply entries, h'.store_eq, h'.list_eq, hnamed, hothers, hthis ▸ hleaves⟩

/-- The list has two entries of `b`, and `c` is heard of and then added; then `b` is deleted, while the node
evicts its stale peers. -/
theorem inStep_of_play_gossip :
    let b : StaticNode := ⟨"b", "10.0.0.2", 5000⟩
    let c : StaticNode := ⟨"c", "10.0.0.3", 5000⟩
    let this : Identity := ⟨"a", "10.0.0.1", 5000, "prod"⟩
    let store := Store.withStatic ⟨[], .file ""⟩ [b, { b with port := 5001 }]
    let settings : Settings Unconfigured := { Settings.new this "s" ⟨⟩ with store := some store }
    let episodes : List Episode :=
      [.traffic (.merge [c.identity this] 1), .call (.add c) [] [] 2, .call (.delete "b") [.evict 3] [] 4]
    ∃ r stored, (start (settings.built 0)).play episodes = .ok r ∧ r.node.store = some stored ∧
      stored.staticList = .ok [c] ∧ (r.roster .peers).localPeers = StaticNode.effective [c] := by
  intro b c this store settings episodes
  have hbuild : settings.build 0 = .ok (settings.built 0) := Settings.build_eq_ok (by decide +kernel)
  have hordinary : ∀ e ∈ episodes, e.IsOrdinary := by
    simp [episodes, Episode.IsOrdinary, Event.IsProtocol]
  have hlist : ((start (settings.built 0)).play episodes).toOption.bind (·.node.store.map (·.staticList)) =
      some (.ok [c]) := by decide +kernel
  cases hplay : (start (settings.built 0)).play episodes with
  | error fault =>
    rw [hplay] at hlist
    cases hlist
  | ok r =>
    obtain ⟨stored, entries, hstored, hentries, hlocal, -⟩ := inStep_of_play rfl rfl hbuild hordinary hplay
    rw [hplay] at hlist
    simp only [Except.toOption, Option.bind_some, hstored, Option.map_some, hentries, Option.some.injEq,
      Except.ok.injEq] at hlist
    subst hlist
    exact ⟨r, stored, rfl, hstored, hentries, hlocal⟩

end Running

end Flotilla
