import Flotilla.EndNode
import Flotilla.Proofs.EndNode.Descent

/-!
# Runs of an end node

A node that runs answers requests, drops stale peers, merges lists, is edited, and contacts its peers and
its center.  A contact takes its time: it is planned with a snapshot of a record and settled when there is
an answer, or none in time.  Meanwhile anything else may happen.
-/

namespace Flotilla

open Rpc (Answer CallError Method Reply)

/-! ### Building a node -/

/-- A computation that succeeds has succeeded at its first step. -/
lemma exists_of_bind_eq_ok {ε α β : Type} {x : Except ε α} {f : α → Except ε β} {b : β}
    (h : x >>= f = .ok b) : ∃ a, x = .ok a ∧ f a = .ok b := by
  cases x with
  | error e => cases h
  | ok a => exact ⟨a, rfl, h⟩

lemma eq_ok_of_mapError_eq_ok {ε ε' α : Type} {x : Except ε α} {f : ε → ε'} {a : α}
    (h : x.mapError f = .ok a) : x = .ok a := by
  cases x with
  | error e => cases h
  | ok a =>
    cases h
    rfl

namespace Roster

variable {r r' : Roster} {entries : List StaticNode} {this : Identity} {now : Instant}

/-- A record that is there once static peers are placed was there before, or is one of theirs. -/
lemma get?_placeStatic {key : String} {node : Node}
    (h : (r.placeStatic entries this now).get? key = some node) :
    r.get? key = some node ∨ ∃ e ∈ entries, e.name = key ∧ node = .fixed (e.identity this) now := by
  suffices hfold : ∀ t : Table Node,
      (entries.foldl (fun t e => t.insert e.name (.fixed (e.identity this) now)) t)[key]? = some node →
        t[key]? = some node ∨ ∃ e ∈ entries, e.name = key ∧ node = .fixed (e.identity this) now from
    hfold r.entries h
  clear h
  induction entries with
  | nil => exact fun t h => .inl h
  | cons e entries ih =>
    intro t h
    rcases ih _ h with hget | ⟨later, hlater, hname, rfl⟩
    · rw [Std.ExtTreeMap.getElem?_insert] at hget
      split_ifs at hget with hname
      · exact .inr ⟨e, List.mem_cons_self, by simpa using hname, (Option.some.inj hget).symm⟩
      · exact .inl hget
    · exact .inr ⟨later, List.mem_cons_of_mem _ hlater, hname, rfl⟩

/-- Entries are loaded if there is no fault in them. -/
lemma loadEntries_eq_ok_iff :
    r.loadEntries entries this now = .ok r' ↔
      StaticNode.firstFault? this entries = none ∧ r' = r.placeStatic entries this now := by
  unfold loadEntries load loadStatic
  cases StaticNode.firstFault? this entries with
  | some fault => simp [Except.map]
  | none => simp [Except.map, eq_comm]

/-- What a store lists is loaded as entries are, and a missing list loads nothing. -/
lemma loadStore_eq (store : Store) : r.loadStore store this now =
    match store.getStatic Store.staticKey with
    | .ok entries => (r.loadEntries entries this now).map (·, entries.length)
    | .error (.missingKey _) => .ok (r, 0)
    | .error e => .error e := by
  unfold loadStore loadFrom loadEntries
  cases store.getStatic Store.staticKey with
  | ok entries =>
    dsimp only [load]
    cases r.loadStatic entries this now <;> rfl
  | error e => cases e <;> rfl

/-- A store lists the entries that are loaded from it, or no list at all. -/
lemma eq_or_loadEntries_of_loadStore {store : Store} {count : ℕ}
    (h : r.loadStore store this now = .ok (r', count)) :
    r' = r ∨ ∃ entries, r.loadEntries entries this now = .ok r' := by
  rw [loadStore_eq] at h
  split at h
  · rename_i entries _
    cases hload : r.loadEntries entries this now with
    | error e =>
      rw [hload] at h
      cases h
    | ok r'' =>
      rw [hload] at h
      cases h
      exact .inr ⟨entries, hload⟩
  · cases h
    exact .inl rfl
  · cases h

/-- Static peers come without tokens. -/
lemma descends_loadEntries (h : r.loadEntries entries this now = .ok r') : r'.Descends r := by
  obtain ⟨-, rfl⟩ := loadEntries_eq_ok_iff.1 h
  intro key node hget
  rcases get?_placeStatic hget with hold | ⟨e, -, -, rfl⟩
  · rw [hold]
    exact .self node
  · exact .fixed _ now _

end Roster

namespace Settings

variable {σ : Type} {s : Settings σ} {now : Instant}

/-- The peers of a node are those of its settings, and those that its store lists. -/
lemma exists_loadEntries_of_loadPeers {r : Roster} (h : s.loadPeers now = .ok r) :
    ∃ nodes, Roster.empty.loadEntries s.staticNodes s.this now = .ok nodes ∧
      (r = nodes ∨ ∃ entries, nodes.loadEntries entries s.this now = .ok r) := by
  obtain ⟨nodes, hnodes, h⟩ := exists_of_bind_eq_ok h
  refine ⟨nodes, hnodes, ?_⟩
  cases hstore : s.store with
  | none =>
    simp only [hstore] at h
    cases h
    exact .inl rfl
  | some store =>
    simp only [hstore] at h
    obtain ⟨⟨r', count⟩, hload, h⟩ := exists_of_bind_eq_ok h
    cases h
    exact Roster.eq_or_loadEntries_of_loadStore hload

/-- A node is built with the peers that were loaded, and with the center that was placed. -/
lemma exists_placeCenter_of_build {n : EndNode σ} (h : s.build now = .ok n) :
    ∃ nodes, s.loadPeers now = .ok nodes ∧
      s.placeCenter { PeerView.new s.this s.clusterToken with cluster.nodes := nodes } now = .ok n.view := by
  obtain ⟨-, -, h⟩ := exists_of_bind_eq_ok h
  obtain ⟨-, -, h⟩ := exists_of_bind_eq_ok h
  obtain ⟨nodes, hnodes, h⟩ := exists_of_bind_eq_ok h
  obtain ⟨v, hv, h⟩ := exists_of_bind_eq_ok h
  refine ⟨nodes, eq_ok_of_mapError_eq_ok hnodes, ?_⟩
  split_ifs at h
  cases h
  exact eq_ok_of_mapError_eq_ok hv

/-- A node starts with no tokens of its peers. -/
lemma descends_loadPeers {r : Roster} (h : s.loadPeers now = .ok r) : r.Descends .empty := by
  obtain ⟨nodes, hstatic, rfl | ⟨entries, hstore⟩⟩ := exists_loadEntries_of_loadPeers h
  · exact Roster.descends_loadEntries hstatic
  · exact (Roster.descends_loadEntries hstore).trans (Roster.descends_loadEntries hstatic)

/-- The center of a node goes by another name than the node. -/
lemma setCenter_of_placeCenter {v v' : PeerView} (h : s.placeCenter v now = .ok v') :
    s.center = none ∧ v' = v ∨
      ∃ center, s.center = some center ∧ center.name ≠ s.this.name ∧ v' = v.setCenter center now := by
  unfold placeCenter at h
  split at h
  · rename_i hcenter
    cases h
    exact .inl ⟨hcenter, rfl⟩
  · rename_i center hcenter
    split_ifs at h with hfault
    cases h
    exact .inr ⟨center, hcenter, fun hname => hfault (.inl hname), rfl⟩

/-- The center comes without a token, and the peers are not touched. -/
lemma descends_placeCenter {v v' : PeerView} (h : s.placeCenter v now = .ok v') :
    v'.cluster = v.cluster ∧ v'.center.Descends v.center := by
  obtain ⟨-, rfl⟩ | ⟨center, -, -, rfl⟩ := setCenter_of_placeCenter h
  · exact ⟨rfl, .refl _⟩
  · exact ⟨rfl, v.descends_setCenter now center⟩

/-- A node is built without any token of a peer. -/
lemma descends_build {n : EndNode σ} (h : s.build now = .ok n) (side : Side) :
    (n.view.roster side).Descends .empty := by
  obtain ⟨nodes, hpeers, hview⟩ := exists_placeCenter_of_build h
  obtain ⟨hcluster, hcenter⟩ := descends_placeCenter hview
  cases side with
  | peers =>
    change n.view.cluster.nodes.Descends .empty
    rw [hcluster]
    exact descends_loadPeers hpeers
  | center => exact hcenter

def built [Inhabited σ] (s : Settings σ) (now : Instant) : EndNode σ :=
  match s.build now with
  | .ok n => n
  | .error _ => default

lemma build_eq_ok [Inhabited σ] (h : (s.build now).isOk = true) : s.build now = .ok (s.built now) := by
  unfold built
  cases hbuild : s.build now with
  | ok n => rfl
  | error e =>
    rw [hbuild] at h
    cases h

end Settings

/-! ### Events -/

/-- A node that runs, with its contacts under way and a record of all the tokens that it was granted: the
identity that a registration was sent to, and the token in the answer. -/
structure Running (σ : Type) where
  node : EndNode σ
  flights : List Contact
  granted : List (Identity × String)

namespace Running

/-- What may happen to a node that runs. -/
inductive Event where
  /-- A call arrives; `fresh` is the token to issue if one is needed. -/
  | serve (m : Method) (e : Envelope) (fresh : String) (now : Instant)
  /-- Contacts are planned with the records of a side. -/
  | plan (side : Side)
  /-- A contact that made its call earlier is settled. -/
  | land (place : ℕ) (called : Instant) (answer : Option Answer) (now : Instant)
  | merge (peers : List Identity) (now : Instant)
  | evict (now : Instant)
  | addLocal (entry : StaticNode) (now : Instant)
  | deleteNode (name : String)
  | setCenter (center : Identity) (now : Instant)

variable {σ : Type}

def start (n : EndNode σ) : Running σ := ⟨n, [], []⟩

def outcome (r : Running σ) (c : Contact) (called : Instant) (answer : Option Answer) :
    Except CallError News :=
  (Rpc.reply r.node.view.cluster.token (c.method called) r.node.intervals.rpcTimeout answer).bind
    Contact.news

/-- What a registration was granted, and by whom. -/
def grant? (c : Contact) (called : Instant) : Except CallError News → Option (Identity × String)
  | .ok news => if c.method called = .register then news.issued.map (c.node.identity, ·) else none
  | .error _ => none

variable [ProxyEngine σ] [CertManager σ]

def step (r : Running σ) : Event → Running σ
  | .serve m e fresh now => { r with node := (r.node.serve m e fresh now).1 }
  | .plan side => { r with flights := r.flights ++ r.node.view.contactsIn side }
  | .land place called answer now =>
    match r.flights[place]? with
    | none => r
    | some c =>
      let outcome := r.outcome c called answer
      { r with
        node.view := r.node.view.settle c outcome now
        flights := r.flights.eraseIdx place
        granted := (grant? c called outcome).toList ++ r.granted }
  | .merge peers now => { r with node.view := (r.node.view.mergePeers peers now).1 }
  | .evict now => { r with node.view := (r.node.view.evict now).1 }
  | .addLocal entry now => { r with node := (r.node.addLocal entry now).1 }
  | .deleteNode name => { r with node := (r.node.deleteNode name).1 }
  | .setCenter center now => { r with node.view := r.node.view.setCenter center now }

def run (r : Running σ) (es : List Event) : Running σ := es.foldl step r

@[simp] lemma run_nil (r : Running σ) : r.run [] = r := rfl

@[simp] lemma run_cons (r : Running σ) (e : Event) (es : List Event) :
    r.run (e :: es) = (r.step e).run es := rfl

/-! ### What events do to the records -/

abbrev roster (r : Running σ) (side : Side) : Roster := r.node.view.roster side

/-- Everything but the end of a contact only lets records descend; the end of a contact settles it. -/
theorem step_cases (r : Running σ) (e : Event) :
    ((∀ side, ((r.step e).roster side).Descends (r.roster side)) ∧ (r.step e).granted = r.granted) ∨
      ∃ place called answer now c, e = .land place called answer now ∧ r.flights[place]? = some c ∧
        (r.step e).node.view = r.node.view.settle c (r.outcome c called answer) now ∧
        (r.step e).granted = (grant? c called (r.outcome c called answer)).toList ++ r.granted := by
  cases e with
  | serve m e fresh now => exact .inl ⟨r.node.descends_serve m e fresh now, rfl⟩
  | plan side => exact .inl ⟨fun side => .refl _, rfl⟩
  | land place called answer now =>
    cases hplace : r.flights[place]? with
    | none =>
      have hstep : r.step (.land place called answer now) = r := by simp only [step, hplace]
      rw [hstep]
      exact .inl ⟨fun side => .refl _, rfl⟩
    | some c =>
      refine .inr ⟨place, called, answer, now, c, rfl, hplace, ?_, ?_⟩
      · simp only [step, hplace]
      · simp only [step, hplace]
  | merge peers now =>
    refine .inl ⟨fun side => ?_, rfl⟩
    intro key node hget
    rcases PeerView.get?_roster_mergePeers hget with hold | ⟨peer, rfl⟩
    · exact hold ▸ .self node
    · exact .new peer now _
  | evict now =>
    refine .inl ⟨fun side => ?_, rfl⟩
    cases side with
    | peers => exact Roster.descends_filter _ _
    | center => exact .refl _
  | addLocal entry now => exact .inl ⟨r.node.descends_addLocal entry now, rfl⟩
  | deleteNode name => exact .inl ⟨r.node.descends_deleteNode name, rfl⟩
  | setCenter center now =>
    refine .inl ⟨fun side => ?_, rfl⟩
    cases side with
    | peers => exact .refl _
    | center => exact r.node.view.descends_setCenter now center

end Running

variable {σ : Type} [ProxyEngine σ] [CertManager σ]

/-- The node was built from some settings, and this is what became of it. -/
def EndNode.Reached (n : EndNode σ) : Prop :=
  ∃ (s : Settings σ) (built : Instant) (first : EndNode σ) (es : List Running.Event),
    s.build built = .ok first ∧ ((Running.start first).run es).node = n

/-- A node that has just been built is reached. -/
lemma EndNode.reached_of_build {s : Settings σ} {built : Instant} {n : EndNode σ}
    (h : s.build built = .ok n) : n.Reached :=
  ⟨s, built, n, [], h, rfl⟩

lemma EndNode.Reached.serve {n : EndNode σ} (h : n.Reached) (m : Method) (e : Envelope) (fresh : String)
    (now : Instant) : (n.serve m e fresh now).1.Reached := by
  obtain ⟨s, built, first, es, hbuild, rfl⟩ := h
  refine ⟨s, built, first, es ++ [.serve m e fresh now], hbuild, ?_⟩
  rw [Running.run, List.foldl_append]
  rfl

end Flotilla
