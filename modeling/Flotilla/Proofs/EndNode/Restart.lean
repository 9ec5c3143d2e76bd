import Flotilla.Proofs.Config.StaticList
import Flotilla.Proofs.EndNode.Events

/-!
# Building a node from a store

A node without other static peers starts with the peers that its store lists, if there is no fault in any
entry.  What else it is built from is not under the key of the list, and so another list makes no
difference to it.
-/

namespace Flotilla

/-! ### The file of a store -/

namespace Store

/-- The file of the store holds its entries: it was read from this file, or it was written to it. -/
def IsSaved (s : Store) : Prop :=
  ∃ content, s.backing = .file content ∧
    (content = Toml.render s.entries ∨ Toml.parse? content = some s.entries)

variable {s : Store}

/-- A store that was just read again is saved. -/
lemma isSaved_of_reopen (h : s.reopen = .ok s) : s.IsSaved := by
  unfold reopen load at h
  cases hbacking : s.backing with
  | memory | lost => simp [hbacking] at h
  | file content =>
    cases hparse : Toml.parse? content with
    | none => simp [hbacking, hparse] at h
    | some entries =>
      simp only [hbacking, hparse, Except.ok.injEq] at h
      refine ⟨content, hbacking, .inr ?_⟩
      rw [hparse, ← h]

/-- A saved store stays so if another list is written to it. -/
lemma IsSaved.flushed_withStatic (h : s.IsSaved) (entries : List StaticNode) :
    (s.withStatic entries).flushed.IsSaved := by
  obtain ⟨content, hbacking, -⟩ := h
  simp only [flushed, backing_withStatic, hbacking]
  exact ⟨_, rfl, .inl rfl⟩

/-- What is saved is there when the file is opened again, as far as documents are read as they are
written. -/
lemma IsSaved.reopen_eq_ok (h : s.IsSaved) (hdocument : Toml.parse? (Toml.render s.entries) = some s.entries) :
    s.reopen = .ok s := by
  obtain ⟨content, hbacking, hcontent⟩ := h
  have hparse : Toml.parse? content = some s.entries := by
    rcases hcontent with rfl | hparse
    · exact hdocument
    · exact hparse
  simp only [reopen, load, hbacking, hparse]
  rw [← hbacking]

end Store

/-! ### Settings -/

namespace Settings

variable {σ : Type} {s : Settings σ} {store : Store} {now : Instant} {n : EndNode σ}

/-- What is checked before a node is built, apart from its peers. -/
structure IsBuildable (s : Settings σ) : Prop where
  identity : s.this.check = .ok ()
  intervals : s.intervals.check = .ok ()
  center : ∀ center, s.center = some center →
    ¬ (center.name = s.this.name ∨ center.host = "" ∨ center.port = 0)
  limit : ¬ max s.maxInFlight 1 > maxLimit

/-- A center with a name and an address of its own is placed. -/
lemma exists_placeCenter (s : Settings σ) (now : Instant) (hcenter : ∀ center, s.center = some center →
    ¬ (center.name = s.this.name ∨ center.host = "" ∨ center.port = 0)) (v : PeerView) :
    ∃ v', s.placeCenter v now = .ok v' ∧ v'.this = v.this ∧ v'.cluster = v.cluster := by
  unfold placeCenter
  cases h : s.center with
  | none => exact ⟨v, rfl, rfl, rfl⟩
  | some center => exact ⟨v.setCenter center now, if_neg (hcenter center h), rfl, rfl⟩

/-- A node is built if nothing speaks against its settings and its peers are loaded. -/
lemma build_eq_ok_iff : s.build now = .ok n ↔
    s.IsBuildable ∧ ∃ nodes v, s.loadPeers now = .ok nodes ∧
      s.placeCenter { PeerView.new s.this s.clusterToken with cluster.nodes := nodes } now = .ok v ∧
      n = ⟨v, s.intervals, max s.maxInFlight 1, s.engine, s.store⟩ := by
  constructor
  · intro h
    obtain ⟨_, hidentity, h⟩ := exists_of_bind_eq_ok h
    obtain ⟨_, hintervals, h⟩ := exists_of_bind_eq_ok h
    obtain ⟨nodes, hnodes, h⟩ := exists_of_bind_eq_ok h
    obtain ⟨v, hv, h⟩ := exists_of_bind_eq_ok h
    have hplace := eq_ok_of_mapError_eq_ok hv
    split_ifs at h with hlimit
    cases h
    refine ⟨⟨eq_ok_of_mapError_eq_ok hidentity, hintervals, ?_, hlimit⟩, nodes, v,
      eq_ok_of_mapError_eq_ok hnodes, hplace, rfl⟩
    intro center hcenter hfault
    simp only [placeCenter, hcenter, if_pos hfault] at hplace
    cases hplace
  · rintro ⟨⟨hidentity, hintervals, -, hlimit⟩, nodes, v, hnodes, hplace, rfl⟩
    simp only [build, hidentity, hintervals, hnodes, hplace, Except.mapError, bind, Except.bind, pure,
      Except.pure, if_neg hlimit]

/-! ### Peers -/

/-- The peers of a node without settings of its own come from the store. -/
lemma loadPeers_eq (hstatic : s.staticNodes = []) (hstore : s.store = some store) :
    s.loadPeers now =
      ((Roster.empty.placeStatic [] s.this now).loadStore store s.this now).map (·.1) := by
  have hnone : Roster.empty.loadEntries s.staticNodes s.this now =
      .ok (Roster.empty.placeStatic [] s.this now) := by
    rw [hstatic]
    rfl
  simp only [loadPeers, hnone, hstore, bind, Except.bind]
  cases (Roster.empty.placeStatic [] s.this now).loadStore store s.this now <;> rfl

/-- Peers are loaded if the list can be read and there is no fault in its entries. -/
lemma exists_staticList_of_loadPeers (hstatic : s.staticNodes = []) (hstore : s.store = some store)
    {nodes : Roster} (h : s.loadPeers now = .ok nodes) :
    ∃ entries, store.staticList = .ok entries ∧ ∀ e ∈ entries, e.fault? s.this = none := by
  rw [loadPeers_eq hstatic hstore, Roster.loadStore_eq] at h
  rw [Store.staticList]
  cases hlist : store.getStatic Store.staticKey with
  | ok entries =>
    simp only [hlist] at h
    cases hload : (Roster.empty.placeStatic [] s.this now).loadEntries entries s.this now with
    | error fault =>
      rw [hload] at h
      cases h
    | ok nodes' =>
      obtain ⟨hfault, -⟩ := Roster.loadEntries_eq_ok_iff.1 hload
      exact ⟨entries, rfl, StaticNode.firstFault?_eq_none_iff.1 hfault⟩
  | error fault =>
    simp only [hlist] at h
    cases fault with
    | missingKey key => exact ⟨[], rfl, by simp⟩
    | _ => cases h

/-- The peers that are loaded are those of the list, the last one of each name. -/
lemma exists_loadPeers (s : Settings σ) (now : Instant) (hstatic : s.staticNodes = [])
    (hstore : s.store = some store)
    {entries : List StaticNode} (hlist : store.staticList = .ok entries)
    (hvalid : ∀ e ∈ entries, e.fault? s.this = none) :
    ∃ nodes, s.loadPeers now = .ok nodes ∧ ∀ name, nodes.get? name =
      (StaticNode.latest? name entries).map fun e => .fixed (e.identity s.this) now := by
  rw [loadPeers_eq hstatic hstore, Roster.loadStore_eq]
  rw [Store.staticList] at hlist
  cases hget : store.getStatic Store.staticKey with
  | ok entries' =>
    rw [hget] at hlist
    obtain rfl : entries' = entries := Except.ok.inj hlist
    let nodes := (Roster.empty.placeStatic [] s.this now).placeStatic entries' s.this now
    have hload : (Roster.empty.placeStatic [] s.this now).loadEntries entries' s.this now = .ok nodes :=
      Roster.loadEntries_eq_ok_iff.2 ⟨StaticNode.firstFault?_eq_none_iff.2 hvalid, rfl⟩
    refine ⟨nodes, ?_, fun name => ?_⟩
    · simp only [hload, Except.map]
    · rw [Roster.get?_placeStatic_eq, Roster.get?_placeStatic_eq]
      simp [StaticNode.latest?]
  | error fault =>
    rw [hget] at hlist
    cases fault with
    | missingKey key =>
      obtain rfl : [] = entries := Except.ok.inj hlist
      refine ⟨_, rfl, fun name => ?_⟩
      rw [Roster.get?_placeStatic_eq]
      simp [StaticNode.latest?]
    | _ => cases hlist

/-- A node that could be built is built with another list as well, as long as there is no fault in it. -/
lemma exists_build (hbuild : s.build now = .ok n) (hstatic : s.staticNodes = []) {store' : Store}
    {entries : List StaticNode} (hlist : store'.staticList = .ok entries)
    (hvalid : ∀ e ∈ entries, e.fault? s.this = none) (later : Instant) :
    ∃ fresh, { s with store := some store' }.build later = .ok fresh ∧ fresh.this = s.this ∧
      fresh.store = some store' ∧ ∀ name, fresh.view.cluster.nodes.get? name =
        (StaticNode.latest? name entries).map fun e => .fixed (e.identity s.this) later := by
  obtain ⟨⟨hidentity, hintervals, hcenter, hlimit⟩, -⟩ := build_eq_ok_iff.1 hbuild
  let s' : Settings σ := { s with store := some store' }
  obtain ⟨nodes, hnodes, hget⟩ := s'.exists_loadPeers later hstatic rfl hlist hvalid
  obtain ⟨v, hplace, hthis, hcluster⟩ :=
    s'.exists_placeCenter later hcenter { PeerView.new s.this s.clusterToken with cluster.nodes := nodes }
  refine ⟨_, build_eq_ok_iff.2 ⟨⟨hidentity, hintervals, hcenter, hlimit⟩, nodes, v, hnodes, hplace, rfl⟩,
    hthis, rfl, fun name => ?_⟩
  rw [hcluster]
  exact hget name

/-- A node is built with the peers of the list. -/
lemma exists_staticList_of_build (hbuild : s.build now = .ok n) (hstatic : s.staticNodes = [])
    (hstore : s.store = some store) :
    ∃ entries, store.staticList = .ok entries ∧ (∀ e ∈ entries, e.fault? s.this = none) ∧
      n.this = s.this ∧ n.store = some store ∧ ∀ name, n.view.cluster.nodes.get? name =
        (StaticNode.latest? name entries).map fun e => .fixed (e.identity s.this) now := by
  obtain ⟨-, nodes, -, hnodes, -⟩ := build_eq_ok_iff.1 hbuild
  obtain ⟨entries, hlist, hvalid⟩ := exists_staticList_of_loadPeers hstatic hstore hnodes
  obtain ⟨fresh, hfresh, h⟩ := exists_build hbuild hstatic hlist hvalid now
  rw [← hstore, hbuild] at hfresh
  obtain rfl : n = fresh := Except.ok.inj hfresh
  exact ⟨entries, hlist, hvalid, h⟩

/-! ### Settings from a store -/

/-- Two stores agree in everything but the list of static peers. -/
def AgreeApart (t t' : Store) : Prop :=
  ∀ key, (Config.segments key).head? ≠ some Store.staticKey → t'.get? key = t.get? key

namespace AgreeApart

lemma refl (t : Store) : AgreeApart t t := fun _ _ => rfl

lemma trans {t t' t'' : Store} (h : AgreeApart t t') (h' : AgreeApart t' t'') : AgreeApart t t'' :=
  fun key hkey => (h' key hkey).trans (h key hkey)

variable {t t' : Store} {key : String} (h : AgreeApart t t')
  (hkey : (Config.segments key).head? ≠ some Store.staticKey)

include h

section Getters

include hkey

lemma getText : t'.getText key = t.getText key := by
  simp only [Store.getText, Store.require, h key hkey]

lemma getPort : t'.getPort key = t.getPort key := by
  simp only [Store.getPort, Store.getInt, Store.require, h key hkey]

lemma getPositive? : t'.getPositive? key = t.getPositive? key := by
  simp only [Store.getPositive?, Store.getInt, Store.require, h key hkey]

lemma getSeconds (default : Span) : t'.getSeconds key default = t.getSeconds key default := by
  simp only [Store.getSeconds, h.getPositive? hkey]

end Getters

lemma centerOf (cluster : String) : Settings.centerOf t' cluster = Settings.centerOf t cluster := by
  simp (disch := decide +kernel) only [Settings.centerOf, h _, h.getText, h.getPort]

/-- What a node is built from does not depend on the list. -/
lemma ofStore_eq_ok {engine : σ} (hstore : Settings.ofStore t engine = .ok s) :
    Settings.ofStore t' engine = .ok { s with store := some t' } := by
  obtain ⟨name, hname, hstore⟩ := exists_of_bind_eq_ok hstore
  obtain ⟨host, hhost, hstore⟩ := exists_of_bind_eq_ok hstore
  obtain ⟨port, hport, hstore⟩ := exists_of_bind_eq_ok hstore
  obtain ⟨cluster, hcluster, hstore⟩ := exists_of_bind_eq_ok hstore
  obtain ⟨token, htoken, hstore⟩ := exists_of_bind_eq_ok hstore
  obtain ⟨center, hcenter, hstore⟩ := exists_of_bind_eq_ok hstore
  obtain ⟨heartbeat, hheartbeat, hstore⟩ := exists_of_bind_eq_ok hstore
  obtain ⟨eviction, heviction, hstore⟩ := exists_of_bind_eq_ok hstore
  obtain ⟨rpcTimeout, hrpcTimeout, hstore⟩ := exists_of_bind_eq_ok hstore
  obtain ⟨limit, hlimit, hstore⟩ := exists_of_bind_eq_ok hstore
  cases hstore
  simp (disch := decide +kernel) only [Settings.ofStore, h.getText, h.getPort, h.getPositive?, h.getSeconds,
    h.centerOf, hname, hhost, hport, hcluster, htoken, hcenter, hheartbeat, heviction, hrpcTimeout, hlimit,
    bind, Except.bind]
  rfl

end AgreeApart

/-- Another list of static peers leaves everything else in the store as it was. -/
lemma agreeApart_flushed_withStatic (t : Store) (entries : List StaticNode) :
    AgreeApart t (t.withStatic entries).flushed := by
  intro key hkey
  have hflushed : (t.withStatic entries).flushed.get? key = (t.withStatic entries).get? key := by
    unfold Store.flushed
    split <;> rfl
  rw [hflushed, Store.get?_withStatic _ _ hkey]

end Settings

end Flotilla
