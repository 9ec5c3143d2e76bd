import Mathlib.Data.List.Nodup
import Flotilla.Proofs.EndNode.Causes

/-!
# Heartbeat cycles

In a cycle a node contacts its peers and its center all at once.  Each contact that has ended updates the
record of its own peer, and takes up the peers that it was told one by one; between these moves the other
contacts make theirs.  However the moves come to lie, a record that was there is touched by its own contact
only.
-/

namespace Flotilla

open Rpc (Answer CallError Method Request)

/-! ### Moves -/

/-- What a contact that has ended does to the tables in one step. -/
inductive Move where
  /-- The record of the peer is updated. -/
  | settle (c : Contact) (outcome : Except CallError News) (now : Instant)
  /-- A peer is taken up.  Whether it is the center is asked in the same step: no contact changes that. -/
  | learn (peer : Identity) (now : Instant)

namespace Move

/-- The move updates the record under a name. -/
def concerns (side : Side) (key : String) : Move → Bool
  | settle c _ _ => c.side == side && c.node.name == key
  | learn _ _ => false

/-- What the move makes of the record that it updates. -/
def settled : Move → Node → Node
  | settle _ outcome now => Contact.settled outcome now
  | learn _ _ => id

end Move

namespace PeerView

def move (v : PeerView) : Move → PeerView
  | .settle c outcome now => v.updateSide c.side c.node.name (Contact.settled outcome now)
  | .learn peer now => (v.mergePeers [peer] now).1

def play (v : PeerView) (ms : List Move) : PeerView := ms.foldl move v

variable {v : PeerView} {m : Move} {ms : List Move} {side : Side} {key : String} {node : Node}

lemma play_cons (v : PeerView) (m : Move) (ms : List Move) : v.play (m :: ms) = (v.move m).play ms := rfl

lemma play_append (v : PeerView) (ms ms' : List Move) : v.play (ms ++ ms') = (v.play ms).play ms' :=
  List.foldl_append

lemma accepts_move (v : PeerView) (m : Move) : (v.move m).accepts = v.accepts := by
  cases m with
  | settle c outcome now => exact v.accepts_updateSide c.side c.node.name (Contact.settled outcome now)
  | learn peer now =>
    obtain ⟨nodes, hmerge⟩ := v.exists_mergePeers_eq [peer] now
    rw [move, hmerge]
    rfl

/-- A move leaves each record in place, and changes it only if it concerns it. -/
lemma get?_move_of_some (h : (v.roster side).get? key = some node) (m : Move) :
    ((v.move m).roster side).get? key = some (if m.concerns side key then m.settled node else node) := by
  cases m with
  | settle c outcome now =>
    have hget := get?_updateSide v c.side side c.node.name key (Contact.settled outcome now)
    rw [h] at hget
    simpa [move, Move.concerns, Move.settled, apply_ite] using hget
  | learn peer now =>
    cases side with
    | peers => exact get?_mergePeers_of_some h [peer]
    | center =>
      obtain ⟨nodes, hmerge⟩ := v.exists_mergePeers_eq [peer] now
      rw [move, hmerge]
      exact h

/-- A record that is there is only touched by the moves that update it. -/
lemma get?_play_of_some (h : (v.roster side).get? key = some node) (ms : List Move) :
    ((v.play ms).roster side).get? key =
      some ((ms.filter (·.concerns side key)).foldl (fun node m => m.settled node) node) := by
  induction ms generalizing v node with
  | nil => exact h
  | cons m ms ih =>
    rw [play_cons, ih (get?_move_of_some h m)]
    by_cases hconcerns : m.concerns side key = true
    · rw [if_pos hconcerns, List.filter_cons_of_pos hconcerns, List.foldl_cons]
    · rw [if_neg hconcerns, List.filter_cons_of_neg hconcerns]

/-- A record that a move does not concern was there before, or was learnt in the move. -/
lemma get?_move (hget : (v.move m).cluster.nodes.get? key = some node)
    (hconcerns : m.concerns .peers key = false) :
    v.cluster.nodes.get? key = some node ∨
      ∃ peer now, m = .learn peer now ∧ v.accepts peer = true ∧ peer.name = key ∧ node = .new peer now := by
  cases m with
  | settle c outcome now =>
    have hupdate := get?_updateSide v c.side .peers c.node.name key (Contact.settled outcome now)
    have hother : ¬ (c.side = .peers ∧ c.node.name = key) := by
      simpa [Move.concerns] using hconcerns
    rw [if_neg hother] at hupdate
    exact .inl (hupdate.symm.trans hget)
  | learn peer now =>
    have hmerge := get?_mergePeer (v, 0) peer now key
    rw [show (mergePeer now (v, 0) peer).1.cluster.nodes.get? key = some node from hget] at hmerge
    cases hold : v.cluster.nodes.get? key with
    | some old =>
      rw [hold] at hmerge
      left
      simpa using hmerge.symm
    | none =>
      right
      rw [hold] at hmerge
      split_ifs at hmerge with hpeer
      exact ⟨peer, now, rfl, hpeer.1, hpeer.2, Option.some.inj hmerge⟩

/-- A record that no move updates was there before, or is a new one of a peer that was taken up. -/
lemma get?_play (hget : (v.play ms).cluster.nodes.get? key = some node)
    (hconcerns : ∀ m ∈ ms, m.concerns .peers key = false) :
    v.cluster.nodes.get? key = some node ∨
      ∃ peer now, .learn peer now ∈ ms ∧ v.accepts peer = true ∧ peer.name = key ∧
        node = .new peer now := by
  induction ms generalizing v with
  | nil => exact .inl hget
  | cons m ms ih =>
    rcases ih hget fun m' hm' => hconcerns m' (List.mem_cons_of_mem m hm') with
      hmove | ⟨peer, now, hmem, haccepts, hname, hnew⟩
    · rcases get?_move hmove (hconcerns m List.mem_cons_self) with
        hold | ⟨peer, now, rfl, haccepts, hname, hnew⟩
      · exact .inl hold
      · exact .inr ⟨peer, now, List.mem_cons_self, haccepts, hname, hnew⟩
    · rw [accepts_move] at haccepts
      exact .inr ⟨peer, now, List.mem_cons_of_mem m hmem, haccepts, hname, hnew⟩

/-- No move puts anything into the table of the center. -/
lemma center_move_of_none (h : v.center.get? key = none) (m : Move) :
    (v.move m).center.get? key = none := by
  cases m with
  | settle c outcome now =>
    have hget := get?_updateSide v c.side .center c.node.name key (Contact.settled outcome now)
    rw [show (v.roster .center).get? key = none from h, Option.map_none, ite_self] at hget
    exact hget
  | learn peer now =>
    obtain ⟨nodes, hmerge⟩ := v.exists_mergePeers_eq [peer] now
    rw [move, hmerge]
    exact h

/-- No move gives a node another center. -/
lemma center_play_of_none (h : v.center.get? key = none) (ms : List Move) :
    (v.play ms).center.get? key = none := by
  induction ms generalizing v with
  | nil => exact h
  | cons m ms ih => exact ih (center_move_of_none h m)

/-- A merge learns one peer after the other. -/
lemma play_learn (v : PeerView) (peers : List Identity) (now : Instant) :
    v.play (peers.map (.learn · now)) = (v.mergePeers peers now).1 := by
  suffices h : ∀ v' : PeerView × ℕ,
      v'.1.play (peers.map (.learn · now)) = (peers.foldl (mergePeer now) v').1 from h (v, 0)
  induction peers with
  | nil => exact fun v' => rfl
  | cons peer peers ih =>
    intro v'
    have hstep : v'.1.move (.learn peer now) = (mergePeer now v' peer).1 := by
      rw [fst_mergePeer v' peer now]
      exact fst_mergePeer (v'.1, 0) peer now
    rw [List.map_cons, play_cons, List.foldl_cons, hstep, ih]

end PeerView

/-! ### Contacts that have ended -/

/-- A contact is a heartbeat as long as the peer's token is live, and else a registration. -/
lemma Contact.method_cases (c : Contact) (called : Instant) :
    c.node.registeredRemoteAt called = true ∧ c.method called = .heartbeat ∨
      c.node.registeredRemoteAt called = false ∧ c.method called = .register := by
  cases hlive : c.node.registeredRemoteAt called with
  | true => exact .inl ⟨rfl, if_pos hlive⟩
  | false => exact .inr ⟨rfl, if_neg (by simp [hlive])⟩

/-- A contact with the time of its call, the answer, if there was one in time, and the time of its end. -/
structure Completion where
  contact : Contact
  called : Instant
  answer : Option Answer
  ended : Instant

namespace Completion

def place (d : Completion) : Side × String := (d.contact.side, d.contact.node.name)

variable (token : String) (rpcTimeout : Span) (d : Completion)

def outcome : Except CallError News :=
  Contact.outcome token (d.contact.method d.called) rpcTimeout d.answer

def left : Node := Contact.settled (d.outcome token rpcTimeout) d.ended d.contact.node

def moves : List Move :=
  .settle d.contact (d.outcome token rpcTimeout) d.ended ::
    ((d.outcome token rpcTimeout).toOption.elim [] (·.peers)).map (.learn · d.ended)

/-- What becomes of a record: a registration brings a token, a heartbeat does not, and either counts as a
signal; if the contact fails the token is given up, and only a local record is stamped. -/
inductive Leaves : Node → Prop
  | registered {issued : String} (hmethod : d.contact.method d.called = .register)
      (houtcome : d.outcome token rpcTimeout = .ok ⟨some issued, []⟩) :
      Leaves { d.contact.node with outToken := issued, reportedAt := some d.ended }
  | greeted {peers : List Identity} (hmethod : d.contact.method d.called = .heartbeat)
      (houtcome : d.outcome token rpcTimeout = .ok ⟨none, peers⟩) :
      Leaves { d.contact.node with reportedAt := some d.ended }
  | failed {fault : CallError} (houtcome : d.outcome token rpcTimeout = .error fault) :
      Leaves { d.contact.node with
        outToken := ""
        reportedAt := if d.contact.node.isLocal then some d.ended else d.contact.node.reportedAt }

variable {token rpcTimeout d}

/-- A heartbeat brings no token. -/
lemma issued_eq_none {news : News} (hmethod : d.contact.method d.called = .heartbeat)
    (houtcome : d.outcome token rpcTimeout = .ok news) : news.issued = none := by
  rw [outcome, hmethod] at houtcome
  exact Contact.issued_eq_none_of_heartbeat houtcome

/-- A registration brings a token and no peers. -/
lemma eq_issued {news : News} (hmethod : d.contact.method d.called = .register)
    (houtcome : d.outcome token rpcTimeout = .ok news) : ∃ issued, news = ⟨some issued, []⟩ := by
  rw [outcome, hmethod] at houtcome
  exact Contact.eq_issued_of_register houtcome

/-- The record that a contact leaves depends on nothing but this contact. -/
lemma leaves_left (token : String) (rpcTimeout : Span) (d : Completion) :
    d.Leaves token rpcTimeout (d.left token rpcTimeout) := by
  unfold left
  cases houtcome : d.outcome token rpcTimeout with
  | error fault => exact .failed houtcome
  | ok news =>
    rcases d.contact.method_cases d.called with ⟨-, hmethod⟩ | ⟨-, hmethod⟩
    · obtain ⟨issued, peers⟩ := news
      obtain rfl : issued = none := issued_eq_none hmethod houtcome
      exact .greeted hmethod houtcome
    · obtain ⟨issued, rfl⟩ := eq_issued hmethod houtcome
      exact .registered hmethod houtcome

/-- A contact takes up peers only if it was a heartbeat that succeeded, and none but those it was told. -/
lemma exists_news_of_learn_mem {peer : Identity} {now : Instant}
    (h : .learn peer now ∈ d.moves token rpcTimeout) :
    now = d.ended ∧ ∃ news, d.contact.method d.called = .heartbeat ∧
      d.outcome token rpcTimeout = .ok news ∧ peer ∈ news.peers := by
  rcases List.mem_cons.1 h with hsettle | hlearn
  · cases hsettle
  · obtain ⟨peer', hpeer, hmove⟩ := List.mem_map.1 hlearn
    obtain ⟨rfl, rfl⟩ := Move.learn.inj hmove
    cases houtcome : d.outcome token rpcTimeout with
    | error fault =>
      rw [houtcome] at hpeer
      cases hpeer
    | ok news =>
      rw [houtcome] at hpeer
      refine ⟨rfl, news, ?_, rfl, hpeer⟩
      rcases d.contact.method_cases d.called with ⟨-, hmethod⟩ | ⟨-, hmethod⟩
      · exact hmethod
      · obtain ⟨issued, rfl⟩ := eq_issued hmethod houtcome
        cases hpeer

/-- A contact concerns the record that it was planned for, and no other. -/
lemma concerns_moves {m : Move} {side : Side} {key : String} (hm : m ∈ d.moves token rpcTimeout)
    (hconcerns : m.concerns side key = true) : d.place = (side, key) := by
  rcases List.mem_cons.1 hm with rfl | hm
  · simpa [Move.concerns, place] using hconcerns
  · obtain ⟨peer, -, rfl⟩ := List.mem_map.1 hm
    cases hconcerns

/-- Only the first move of a contact updates a record. -/
lemma filter_moves (token : String) (rpcTimeout : Span) (d : Completion) :
    (d.moves token rpcTimeout).filter (·.concerns d.contact.side d.contact.node.name) =
      [.settle d.contact (d.outcome token rpcTimeout) d.ended] := by
  rw [moves, List.filter_cons_of_pos (by simp [Move.concerns]), List.cons_inj_right,
    List.filter_eq_nil_iff]
  intro m hm
  obtain ⟨peer, -, rfl⟩ := List.mem_map.1 hm
  exact Bool.false_ne_true

variable {ds : List Completion} {ms : List Move} {side : Side} {key : String}

/-- Contacts with other records do not concern this one. -/
lemma filter_flatMap_moves_eq_nil (token : String) (rpcTimeout : Span) (h : (side, key) ∉ ds.map place) :
    (ds.flatMap (·.moves token rpcTimeout)).filter (·.concerns side key) = [] := by
  rw [List.filter_eq_nil_iff]
  intro m hm hconcerns
  obtain ⟨d, hd, hmoves⟩ := List.mem_flatMap.1 hm
  exact h (List.mem_map.2 ⟨d, hd, concerns_moves hmoves hconcerns⟩)

/-- However the contacts are ordered, a record to which none was planned is left alone. -/
lemma concerns_eq_false_of_perm (hms : ms.Perm (ds.flatMap (·.moves token rpcTimeout)))
    (h : (side, key) ∉ ds.map place) : ∀ m ∈ ms, m.concerns side key = false := by
  intro m hm
  have hnone := filter_flatMap_moves_eq_nil token rpcTimeout h
  simpa using List.filter_eq_nil_iff.1 hnone m (hms.mem_iff.1 hm)

/-- Where each record is contacted at most once, one move of all updates it. -/
lemma filter_flatMap_moves (token : String) (rpcTimeout : Span) (hds : (ds.map place).Nodup) (hd : d ∈ ds) :
    (ds.flatMap (·.moves token rpcTimeout)).filter
        (·.concerns d.contact.side d.contact.node.name) =
      [.settle d.contact (d.outcome token rpcTimeout) d.ended] := by
  -- the contacts before and after this one are at other places
  obtain ⟨before, after, rfl⟩ := List.append_of_mem hd
  have hnodup : ((d :: (before ++ after)).map place).Nodup :=
    (List.perm_middle.map place).nodup_iff.1 hds
  rw [List.map_cons, List.nodup_cons, List.map_append, List.mem_append, not_or] at hnodup
  obtain ⟨⟨hbefore, hafter⟩, -⟩ := hnodup
  rw [List.flatMap_append, List.flatMap_cons, List.filter_append, List.filter_append, filter_moves,
    filter_flatMap_moves_eq_nil token rpcTimeout hbefore,
    filter_flatMap_moves_eq_nil token rpcTimeout hafter]
  rfl

/-- The moves of a contact, one right after the other, settle it. -/
lemma play_moves (v : PeerView) (token : String) (rpcTimeout : Span) (d : Completion) :
    v.play (d.moves token rpcTimeout) = v.settle d.contact (d.outcome token rpcTimeout) d.ended := by
  rw [moves, PeerView.play_cons, PeerView.play_learn, PeerView.settle_eq]
  rfl

/-- Contacts that end one after the other are the moves of each, one after the other. -/
lemma play_flatMap_moves (v : PeerView) (token : String) (rpcTimeout : Span) (ds : List Completion) :
    v.play (ds.flatMap (·.moves token rpcTimeout)) =
      ds.foldl (fun v' d => v'.settle d.contact (d.outcome token rpcTimeout) d.ended) v := by
  induction ds generalizing v with
  | nil => rfl
  | cons d ds ih => rw [List.flatMap_cons, PeerView.play_append, play_moves, ih, List.foldl_cons]

end Completion

/-! ### Contacts of a cycle -/

namespace PeerView

variable {v : PeerView}

/-- The records are stored under the names of their peers. -/
def Keyed (v : PeerView) : Prop :=
  ∀ side key node, (v.roster side).get? key = some node → node.name = key

/-- Everybody in the two tables is contacted, except the node itself. -/
lemma mem_contacts_iff (hkeyed : v.Keyed) {c : Contact} :
    c ∈ v.contacts ↔ (v.roster c.side).get? c.node.name = some c.node ∧ c.node.name ≠ v.this.name := by
  have hside (side : Side) : c ∈ v.contactsIn side ↔ side = c.side ∧
      (v.roster c.side).get? c.node.name = some c.node ∧ c.node.name ≠ v.this.name := by
    simp only [contactsIn, List.mem_map, List.mem_filter, bne_iff_ne, Prod.exists,
      Std.ExtTreeMap.mem_toList_iff_getElem?_eq_some]
    constructor
    · rintro ⟨key, node, ⟨hget, hkey⟩, rfl⟩
      obtain rfl : node.name = key := hkeyed side key node hget
      exact ⟨rfl, hget, hkey⟩
    · rintro ⟨rfl, hget, hkey⟩
      exact ⟨c.node.name, c.node, ⟨hget, hkey⟩, rfl⟩
  rw [contacts, List.mem_append, hside, hside]
  cases c.side <;> simp

/-- No record of a table is contacted twice in a cycle. -/
lemma nodup_contactsIn (hkeyed : v.Keyed) (side : Side) :
    ((v.contactsIn side).map (·.node.name)).Nodup := by
  have hnames : (v.contactsIn side).map (·.node.name) =
      ((v.roster side).entries.toList.filter fun e => e.1 != v.this.name).map (·.1) := by
    rw [contactsIn, List.map_map]
    apply List.map_congr_left
    intro e he
    have hget := Std.ExtTreeMap.mem_toList_iff_getElem?_eq_some.1 (List.mem_filter.1 he).1
    exact hkeyed side e.1 e.2 hget
  rw [hnames]
  have hkeys : ((v.roster side).entries.toList.map (·.1)).Nodup := by
    rw [Std.ExtTreeMap.map_fst_toList_eq_keys]
    exact Std.ExtTreeMap.nodup_keys
  exact hkeys.sublist (List.filter_sublist.map _)

/-- Each record is contacted at most once. -/
lemma nodup_contacts (hkeyed : v.Keyed) : (v.contacts.map fun c => (c.side, c.node.name)).Nodup := by
  have hside (side : Side) : (v.contactsIn side).map (fun c => (c.side, c.node.name)) =
      ((v.contactsIn side).map (·.node.name)).map (side, ·) := by
    simp [contactsIn]
  rw [contacts, List.map_append, hside, hside]
  refine List.Nodup.append ?_ ?_ ?_
  · exact (nodup_contactsIn hkeyed .peers).map fun _ _ h => (Prod.mk.inj h).2
  · exact (nodup_contactsIn hkeyed .center).map fun _ _ h => (Prod.mk.inj h).2
  · intro place hpeers hcenter
    obtain ⟨name, -, rfl⟩ := List.mem_map.1 hpeers
    obtain ⟨name', -, hplace⟩ := List.mem_map.1 hcenter
    cases hplace

/-! ### Cycles -/

/-- What a cycle makes of the tables: `v` is what the node sees when the contacts are planned, and `w` what
it sees when all of them have ended.  Each record but the node's own is contacted once, by the method that
is due, and is left as its own contact leaves it.  New records come from heartbeats, and hold no tokens. -/
structure Isolates (rpcTimeout : Span) (ds : List Completion) (v w : PeerView) : Prop where
  once : ∀ side key node, (v.roster side).get? key = some node →
    (ds.map (·.contact)).count ⟨side, node⟩ = if key = v.this.name then 0 else 1
  known : ∀ d ∈ ds, (v.roster d.contact.side).get? d.contact.node.name = some d.contact.node
  heartbeat : ∀ d ∈ ds, d.contact.node.registeredRemoteAt d.called = true →
    d.contact.method d.called = .heartbeat ∧ d.contact.request v.this v.cluster.token d.called =
      ⟨some (.of d.contact.node.outToken v.this), .heartbeat⟩
  register : ∀ d ∈ ds, d.contact.node.registeredRemoteAt d.called = false →
    d.contact.method d.called = .register ∧ d.contact.request v.this v.cluster.token d.called =
      ⟨some (.of v.cluster.token v.this), .register⟩
  left : ∀ d ∈ ds, (w.roster d.contact.side).get? d.contact.node.name =
    some (d.left v.cluster.token rpcTimeout) ∧
      d.Leaves v.cluster.token rpcTimeout (d.left v.cluster.token rpcTimeout)
  own : ∀ side, (w.roster side).get? v.this.name = (v.roster side).get? v.this.name
  learned : ∀ key node, v.cluster.nodes.get? key = none → w.cluster.nodes.get? key = some node →
    ∃ d ∈ ds, ∃ news, d.contact.method d.called = .heartbeat ∧
      d.outcome v.cluster.token rpcTimeout = .ok news ∧ ∃ peer ∈ news.peers, peer.name = key ∧
        node = .new peer d.ended ∧ node.inToken = "" ∧ node.outToken = ""
  center : ∀ key, v.center.get? key = none → w.center.get? key = none

section Cycle

variable {rpcTimeout : Span} {ds : List Completion} {ms : List Move} (hkeyed : v.Keyed)
  (hds : (ds.map (·.contact)).Perm v.contacts)

include hkeyed hds

lemma get?_of_mem {d : Completion} (hd : d ∈ ds) :
    (v.roster d.contact.side).get? d.contact.node.name = some d.contact.node ∧
      d.contact.node.name ≠ v.this.name :=
  (mem_contacts_iff hkeyed).1 (hds.mem_iff.1 (List.mem_map_of_mem hd))

/-- A record is contacted once, or not at all if it bears the name of the node. -/
lemma count_contacts {side : Side} {key : String} {node : Node}
    (hget : (v.roster side).get? key = some node) :
    (ds.map (·.contact)).count ⟨side, node⟩ = if key = v.this.name then 0 else 1 := by
  obtain rfl : node.name = key := hkeyed side key node hget
  rw [hds.count_eq]
  split_ifs with hown
  · apply List.count_eq_zero.2
    intro hmem
    exact ((mem_contacts_iff hkeyed).1 hmem).2 hown
  · have hmem : ⟨side, node⟩ ∈ v.contacts := (mem_contacts_iff hkeyed).2 ⟨hget, hown⟩
    exact List.count_eq_one_of_mem (List.Nodup.of_map _ (nodup_contacts hkeyed)) hmem

lemma nodup_places : (ds.map Completion.place).Nodup := by
  have hplaces : (ds.map (·.contact)).map (fun c => (c.side, c.node.name)) = ds.map Completion.place :=
    List.map_map
  exact hplaces ▸ (hds.map _).nodup_iff.2 (nodup_contacts hkeyed)

variable (hms : ms.Perm (ds.flatMap (·.moves v.cluster.token rpcTimeout)))

include hms

/-- The record of a peer is updated once, by its own contact. -/
lemma get?_play_left {d : Completion} (hd : d ∈ ds) :
    ((v.play ms).roster d.contact.side).get? d.contact.node.name =
      some (d.left v.cluster.token rpcTimeout) := by
  have hfilter := Completion.filter_flatMap_moves v.cluster.token rpcTimeout (nodup_places hkeyed hds) hd
  have hone := List.perm_singleton.1 (hfilter ▸ hms.filter _)
  rw [get?_play_of_some (get?_of_mem hkeyed hds hd).1, hone]
  rfl

/-- The record under the name of the node itself is never contacted. -/
lemma get?_play_own (side : Side) :
    ((v.play ms).roster side).get? v.this.name = (v.roster side).get? v.this.name := by
  have hplace : (side, v.this.name) ∉ ds.map Completion.place := by
    intro hmem
    obtain ⟨d, hd, hplace⟩ := List.mem_map.1 hmem
    exact (get?_of_mem hkeyed hds hd).2 (Prod.mk.inj hplace).2
  have hconcerns := Completion.concerns_eq_false_of_perm hms hplace
  cases hget : (v.roster side).get? v.this.name with
  | some node =>
    have hnone : ms.filter (·.concerns side v.this.name) = [] :=
      List.filter_eq_nil_iff.2 fun m hm => by simp [hconcerns m hm]
    rw [get?_play_of_some hget, hnone]
    rfl
  | none =>
    cases side with
    | center => exact center_play_of_none hget ms
    | peers =>
      by_contra hsome
      obtain ⟨node, hnode⟩ := Option.ne_none_iff_exists'.1 hsome
      rcases get?_play hnode hconcerns with hold | ⟨peer, now, -, haccepts, hname, -⟩
      · exact absurd (hget.symm.trans hold) nofun
      · -- a node does not take itself up
        simp [accepts, hname] at haccepts

/-- A record that was not there is one that a heartbeat brought. -/
lemma exists_mem_of_get?_play {key : String} {node : Node} (hnone : v.cluster.nodes.get? key = none)
    (hnode : (v.play ms).cluster.nodes.get? key = some node) :
    ∃ d ∈ ds, ∃ news, d.contact.method d.called = .heartbeat ∧
      d.outcome v.cluster.token rpcTimeout = .ok news ∧
        ∃ peer ∈ news.peers, peer.name = key ∧ node = .new peer d.ended := by
  have hplace : (Side.peers, key) ∉ ds.map Completion.place := by
    intro hmem
    obtain ⟨d, hd, hplace⟩ := List.mem_map.1 hmem
    obtain ⟨hside, rfl⟩ := Prod.mk.inj hplace
    have hget := (get?_of_mem hkeyed hds hd).1
    rw [hside] at hget
    exact absurd (hnone.symm.trans hget) nofun
  rcases get?_play hnode (Completion.concerns_eq_false_of_perm hms hplace) with
    hold | ⟨peer, now, hmem, -, hname, hnew⟩
  · exact absurd (hnone.symm.trans hold) nofun
  · obtain ⟨d, hd, hmoves⟩ := List.mem_flatMap.1 (hms.mem_iff.1 hmem)
    obtain ⟨rfl, news, hmethod, houtcome, hpeer⟩ := Completion.exists_news_of_learn_mem hmoves
    exact ⟨d, hd, news, hmethod, houtcome, peer, hpeer, hname, hnew⟩

lemma isolates_play : v.Isolates rpcTimeout ds (v.play ms) where
  once _ _ _ hget := count_contacts hkeyed hds hget
  known d hd := (get?_of_mem hkeyed hds hd).1
  heartbeat _ _ hlive := ⟨if_pos hlive, if_pos hlive⟩
  register d _ hdue := by
    have hnot : ¬ d.contact.node.registeredRemoteAt d.called = true := by simp [hdue]
    exact ⟨if_neg hnot, if_neg hnot⟩
  left d hd := ⟨get?_play_left hkeyed hds hms hd, d.leaves_left v.cluster.token rpcTimeout⟩
  own side := get?_play_own hkeyed hds hms side
  learned key node hnone hnode := by
    obtain ⟨d, hd, news, hmethod, houtcome, peer, hpeer, hname, rfl⟩ :=
      exists_mem_of_get?_play hkeyed hds hms hnone hnode
    exact ⟨d, hd, news, hmethod, houtcome, peer, hpeer, hname, rfl, rfl, rfl⟩
  center _ hnone := center_play_of_none hnone ms

end Cycle

/-- The contacts of a cycle do not touch the records of each other, in whatever order they end, and
however their moves come to lie. -/
theorem isolates_of_perm (v : PeerView) (hkeyed : v.Keyed) (rpcTimeout : Span) (ds : List Completion)
    (hds : (ds.map (·.contact)).Perm v.contacts) :
    (∀ ms : List Move, ms.Perm (ds.flatMap (·.moves v.cluster.token rpcTimeout)) →
      v.Isolates rpcTimeout ds (v.play ms)) ∧
    v.Isolates rpcTimeout ds
      (ds.foldl (fun v' d => v'.settle d.contact (d.outcome v.cluster.token rpcTimeout) d.ended) v) := by
  constructor
  · exact fun ms hms => isolates_play hkeyed hds hms
  · rw [← Completion.play_flatMap_moves]
    exact isolates_play hkeyed hds (List.Perm.refl _)

/-- The center does not answer in time, and then a peer grants a token. -/
theorem isolates_of_perm_registration :
    let x : Node := .fixed ⟨"x", "10.0.0.2", 5000, "prod"⟩ 0
    let hub : Node := .fixed ⟨"hub", "10.0.0.9", 5000, "prod"⟩ 0
    let cluster : Cluster := { Cluster.new "prod" "s" with nodes := Roster.empty.insert "x" x }
    let v : PeerView := ⟨⟨"a", "10.0.0.1", 5000, "prod"⟩, cluster, Roster.empty.insert "hub" hub⟩
    let ds : List Completion :=
      [⟨⟨.center, hub⟩, 0, none, 1⟩, ⟨⟨.peers, x⟩, 0, some Running.grant, 2⟩]
    let w := ds.foldl
      (fun v' d => v'.settle d.contact (d.outcome v.cluster.token (Span.seconds 3)) d.ended) v
    v.Keyed ∧ (ds.map (·.contact)).Perm v.contacts ∧
      (w.roster .center).get? "hub" = some { hub with reportedAt := some 1 } ∧
      (w.roster .peers).get? "x" = some { x with outToken := "t", reportedAt := some 2 } := by
  intro x hub cluster v ds w
  have hkeyed : v.Keyed := by
    intro side key node hget
    cases side with
    | peers | center =>
      rw [roster, Roster.get?_insert, Roster.get?_empty] at hget
      split_ifs at hget with hkey
      cases hget
      exact hkey
  have hds : (ds.map (·.contact)).Perm v.contacts := by decide +kernel
  have hleft : Completion.left "s" (Span.seconds 3) ⟨⟨.peers, x⟩, 0, some Running.grant, 2⟩ =
      { x with outToken := "t", reportedAt := some 2 } := by
    have hmethod : (⟨.peers, x⟩ : Contact).method 0 = .register := by decide
    rw [Completion.left, Completion.outcome, hmethod, Contact.outcome, Running.reply_grant]
    rfl
  have hw := (isolates_of_perm v hkeyed (Span.seconds 3) ds hds).2
  have hhub := (hw.left _ (List.mem_cons_self ..)).1
  have hx := (hw.left _ (List.mem_cons_of_mem _ (List.mem_cons_self ..))).1
  exact ⟨hkeyed, hds, hhub, hx.trans (congrArg some hleft)⟩

end PeerView

end Flotilla
