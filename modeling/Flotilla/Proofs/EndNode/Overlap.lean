import Mathlib.Data.Bool.Basic
import Mathlib.Data.List.Infix
import Mathlib.Logic.Function.Basic
import Flotilla.Proofs.EndNode.EditSteps

/-!
# Edits that overlap

Two calls may edit the static peers of a node at the same time.  If one of them sets the list after the other
one has read it, and then the other one sets it, too, the first edit is gone.  In all other cases the list is
as if one call had come after the other.
-/

namespace Flotilla

/-! ### Two calls -/

/-- Two calls on a node, with what they share. -/
structure EditRace where
  store : Store
  peers : Roster
  progress : Bool → EditProgress

namespace EditRace

open EditProgress

variable (this : Identity) (edits : Bool → StaticEdit)

/-- One of the calls takes a step at some time. -/
def step (x : EditRace) (move : Bool × Instant) : EditRace :=
  let (store, peers, progress) := (x.progress move.1).step this (edits move.1) move.2 x.store x.peers
  ⟨store, peers, Function.update x.progress move.1 progress⟩

def run (x : EditRace) (moves : List (Bool × Instant)) : EditRace := moves.foldl (step this edits) x

def start (s : Store) (r : Roster) : EditRace := ⟨s, r, fun side => .start this (edits side)⟩

variable {this edits} {x : EditRace} {moves : List (Bool × Instant)}

lemma run_snoc (x : EditRace) (moves : List (Bool × Instant)) (move : Bool × Instant) :
    x.run this edits (moves ++ [move]) = (x.run this edits moves).step this edits move := by
  simp [run]

/-- A move is a step of one call; the other one stays where it is. -/
lemma advance_step (this : Identity) (edits : Bool → StaticEdit) (x : EditRace) (side : Bool)
    (now : Instant) :
    let x' := x.step this edits (side, now)
    (x.progress side).Advance this (edits side) now x.store x.peers x'.store x'.peers (x'.progress side) ∧
      x'.progress (!side) = x.progress (!side) := by
  refine ⟨?_, Function.update_of_ne (by simp) _ _⟩
  have hadvance := EditProgress.advance_step this (edits side) now x.store x.peers (x.progress side)
  simpa [step] using hadvance

/-- At some time during a run both calls are at a certain point. -/
def Meet (this : Identity) (edits : Bool → StaticEdit) (At : EditProgress → Prop) (x : EditRace)
    (moves : List (Bool × Instant)) : Prop :=
  ∃ before, before <+: moves ∧ ∀ side, At ((x.run this edits before).progress side)

/-- Both calls are at a place at the same time, in the last state or in an earlier one. -/
lemma meet_snoc {At : EditProgress → Prop} (move : Bool × Instant) :
    Meet this edits At x (moves ++ [move]) ↔
      Meet this edits At x moves ∨ ∀ side, At ((x.run this edits (moves ++ [move])).progress side) := by
  simp only [Meet, List.prefix_concat_iff]
  constructor
  · rintro ⟨before, rfl | hbefore, hat⟩
    · exact .inr hat
    · exact .inl ⟨before, hbefore, hat⟩
  · rintro (⟨before, hbefore, hat⟩ | hat)
    · exact ⟨before, .inr hbefore, hat⟩
    · exact ⟨_, .inl rfl, hat⟩

/-! ### The list -/

/-- How two calls stand that began with a list and have not met when both were about to set it: how far they
have come, and the list as it is now. -/
inductive InTurn (edits : Bool → StaticEdit) (entries : List StaticNode) (progress : Bool → EditProgress) :
    List StaticNode → Prop where
  | unread (hp : ∀ side, progress side = .reading) : InTurn edits entries progress entries
  | about (side : Bool) (hp : progress side = .setting ((edits side).apply entries))
      (hq : progress (!side) = .reading) : InTurn edits entries progress entries
  | ahead (side : Bool) (hp : (progress side).IsPast) (hq : progress (!side) = .reading) :
      InTurn edits entries progress ((edits side).apply entries)
  | following (side : Bool) (hp : (progress side).IsPast)
      (hq : progress (!side) = .setting ((edits (!side)).apply ((edits side).apply entries))) :
      InTurn edits entries progress ((edits side).apply entries)
  | both (side : Bool) (hp : ∀ side, (progress side).IsPast) :
      InTurn edits entries progress ((edits (!side)).apply ((edits side).apply entries))

/-- How two calls stand that have met when both were about to set the list. -/
inductive Torn (edits : Bool → StaticEdit) (entries : List StaticNode) (progress : Bool → EditProgress) :
    List StaticNode → Prop where
  | tied (hp : ∀ side, progress side = .setting ((edits side).apply entries)) :
      Torn edits entries progress entries
  | overtaken (side : Bool) (hp : (progress side).IsPast)
      (hq : progress (!side) = .setting ((edits (!side)).apply entries)) :
      Torn edits entries progress ((edits side).apply entries)
  | lost (side : Bool) (hp : ∀ side, (progress side).IsPast) :
      Torn edits entries progress ((edits side).apply entries)

/-- One of the calls has failed. -/
def SomeFailed (progress : Bool → EditProgress) : Prop := ∃ side fault, progress side = .failed fault

section Advance

variable {edits : Bool → StaticEdit} {entries list list' : List StaticNode}
  {progress progress' : Bool → EditProgress} {mover : Bool}

/-- It is enough to look at the call that moved, and at the one that did not. -/
lemma forall_of_mover {P : EditProgress → Prop} (hother : progress' (!mover) = progress (!mover))
    (hp : P (progress' mover)) (hq : P (progress (!mover))) (side : Bool) : P (progress' side) := by
  obtain rfl | rfl := Bool.eq_or_eq_not side mover
  · exact hp
  · exact hother ▸ hq

/-- In turn, only one of the calls is about to set the list. -/
lemma InTurn.not_forall_isSetting (h : InTurn edits entries progress list) :
    ¬ ∀ side, (progress side).IsSetting := by
  intro hall
  cases h with
  | unread hp => simpa [IsSetting, hp] using hall true
  | about side hp hq | ahead side hp hq => simpa [IsSetting, hq] using hall (!side)
  | following side hp => exact hp.not_isSetting (hall side)
  | both side hp => exact (hp side).not_isSetting (hall side)

variable (hmover : Alters (edits mover) list (progress mover) list' (progress' mover))
  (hother : progress' (!mover) = progress (!mover))

include hmover hother

/-- The calls go on in turn, unless one of them reads the list while the other one is about to set it. -/
lemma InTurn.advance (h : InTurn edits entries progress list) :
    InTurn edits entries progress' list' ∨
      Torn edits entries progress' list' ∧ (∀ side, (progress' side).IsSetting) ∨ SomeFailed progress' := by
  have hfailed (h : ∃ fault, progress' mover = .failed fault) : InTurn edits entries progress' list' ∨
      Torn edits entries progress' list' ∧ (∀ side, (progress' side).IsSetting) ∨ SomeFailed progress' :=
    .inr (.inr ⟨mover, h⟩)
  cases h with
  | unread hp =>
    have hq := hother.trans (hp (!mover))
    obtain ⟨rfl, hset | ⟨hpast, hsame⟩ | hfault⟩ := hmover.of_reading (hp mover)
    · exact .inl (.about mover hset hq)
    · have hahead : InTurn edits list' progress' ((edits mover).apply list') := .ahead mover hpast hq
      rw [hsame] at hahead
      exact .inl hahead
    · exact hfailed hfault
  | about side hp hq =>
    obtain rfl | rfl := Bool.eq_or_eq_not mover side
    · obtain ⟨rfl, hpast⟩ | hfault := hmover.of_setting hp
      · exact .inl (.ahead mover hpast (hother.trans hq))
      · exact hfailed hfault
    · rw [Bool.not_not, hp] at hother
      obtain ⟨rfl, hset | ⟨hpast, hsame⟩ | hfault⟩ := hmover.of_reading hq
      · refine .inr (.inl ⟨.tied fun s => ?_, fun s => ?_⟩)
        · obtain rfl | rfl := Bool.eq_or_eq_not s side
          · exact hother
          · exact hset
        · obtain rfl | rfl := Bool.eq_or_eq_not s side
          · exact ⟨_, hother⟩
          · exact ⟨_, hset⟩
      · have hfollowing : InTurn edits list' progress' ((edits (!side)).apply list') :=
          .following (!side) hpast (by rw [hsame, Bool.not_not, hother])
        rw [hsame] at hfollowing
        exact .inl hfollowing
      · exact hfailed hfault
  | ahead side hp hq =>
    obtain rfl | rfl := Bool.eq_or_eq_not mover side
    · obtain ⟨rfl, hpast | hfault⟩ := hmover.of_isPast hp
      · exact .inl (.ahead mover hpast (hother.trans hq))
      · exact hfailed hfault
    · rw [← Bool.not_not side] at hp
      obtain ⟨rfl, hset | ⟨hpast, hsame⟩ | hfault⟩ := hmover.of_reading hq
      · rw [← hother, Bool.not_not] at hp
        exact .inl (.following side hp hset)
      · have hboth : InTurn edits entries progress' ((edits (!side)).apply ((edits side).apply entries)) :=
          .both side (forall_of_mover hother hpast hp)
        rw [hsame] at hboth
        exact .inl hboth
      · exact hfailed hfault
  | following side hp hq =>
    obtain rfl | rfl := Bool.eq_or_eq_not mover side
    · obtain ⟨rfl, hpast | hfault⟩ := hmover.of_isPast hp
      · exact .inl (.following mover hpast (hother.trans hq))
      · exact hfailed hfault
    · rw [← Bool.not_not side] at hp
      obtain ⟨rfl, hpast⟩ | hfault := hmover.of_setting hq
      · exact .inl (.both side (forall_of_mover hother hpast hp))
      · exact hfailed hfault
  | both side hp =>
    obtain ⟨rfl, hpast | hfault⟩ := hmover.of_isPast (hp mover)
    · exact .inl (.both side (forall_of_mover hother hpast (hp _)))
    · exact hfailed hfault

/-- Once they have met the list has one of the edits only. -/
lemma Torn.advance (h : Torn edits entries progress list) :
    Torn edits entries progress' list' ∨ SomeFailed progress' := by
  cases h with
  | tied hp =>
    obtain ⟨rfl, hpast⟩ | hfault := hmover.of_setting (hp mover)
    · exact .inl (.overtaken mover hpast (hother.trans (hp _)))
    · exact .inr ⟨mover, hfault⟩
  | overtaken side hp hq =>
    obtain rfl | rfl := Bool.eq_or_eq_not mover side
    · obtain ⟨rfl, hpast | hfault⟩ := hmover.of_isPast hp
      · exact .inl (.overtaken mover hpast (hother.trans hq))
      · exact .inr ⟨mover, hfault⟩
    · rw [← Bool.not_not side] at hp
      obtain ⟨rfl, hpast⟩ | hfault := hmover.of_setting hq
      · exact .inl (.lost (!side) (forall_of_mover hother hpast hp))
      · exact .inr ⟨_, hfault⟩
  | lost side hp =>
    obtain ⟨rfl, hpast | hfault⟩ := hmover.of_isPast (hp mover)
    · exact .inl (.lost side (forall_of_mover hother hpast (hp _)))
    · exact .inr ⟨mover, hfault⟩

/-- A call that has failed stays so. -/
lemma SomeFailed.advance (h : SomeFailed progress) : SomeFailed progress' := by
  obtain ⟨side, fault, hp⟩ := h
  obtain rfl | rfl := Bool.eq_or_eq_not side mover
  · exact ⟨side, hmover.of_failed hp⟩
  · exact ⟨!mover, fault, hother.trans hp⟩

end Advance

/-! ### Runs -/

variable {this : Identity} {edits : Bool → StaticEdit} {store : Store} {peers : Roster}
  {entries : List StaticNode}

variable (this edits peers) in
/-- The calls go on in turn until they meet when both are about to set the list, if they ever do and none of
them fails. -/
lemma standing_run (hlist : store.staticList = .ok entries) (moves : List (Bool × Instant)) :
    let x := (start this edits store peers).run this edits moves
    let met := Meet this edits IsSetting (start this edits store peers) moves
    ∃ list, x.store.staticList = .ok list ∧ (SomeFailed x.progress ∨
      ¬ met ∧ InTurn edits entries x.progress list ∨ met ∧ Torn edits entries x.progress list) := by
  induction moves using List.reverseRecOn with
  | nil =>
    refine ⟨entries, hlist, ?_⟩
    by_cases hfailed : SomeFailed (start this edits store peers).progress
    · exact .inl hfailed
    have hturn : InTurn edits entries (start this edits store peers).progress entries :=
      .unread fun side => (start_cases this (edits side)).resolve_right fun h => hfailed ⟨side, h⟩
    refine .inr (.inl ⟨?_, hturn⟩)
    rintro ⟨before, hbefore, hsetting⟩
    obtain rfl := List.prefix_nil.1 hbefore
    exact hturn.not_forall_isSetting hsetting
  | append_singleton moves move ih =>
    obtain ⟨side, now⟩ := move
    obtain ⟨list, hread, hstanding⟩ := ih
    obtain ⟨hadvance, hother⟩ :=
      advance_step this edits ((start this edits store peers).run this edits moves) side now
    obtain ⟨list', hread', hmover⟩ := hadvance.alters hread
    simp only [meet_snoc, run_snoc]
    refine ⟨list', hread', ?_⟩
    rcases hstanding with hfailed | ⟨hmet, hturn⟩ | ⟨hmet, htorn⟩
    · exact .inl (hfailed.advance hmover hother)
    · rcases hturn.advance hmover hother with hturn | ⟨htorn, hsetting⟩ | hfailed
      · exact .inr (.inl ⟨not_or.2 ⟨hmet, hturn.not_forall_isSetting⟩, hturn⟩)
      · exact .inr (.inr ⟨.inr hsetting, htorn⟩)
      · exact .inl hfailed
    · rcases htorn.advance hmover hother with htorn | hfailed
      · exact .inr (.inr ⟨.inl hmet, htorn⟩)
      · exact .inl hfailed

lemma names_ne (hne : (edits false).name ≠ (edits true).name) (side : Bool) :
    (edits side).name ≠ (edits (!side)).name := by
  cases side with
  | false => exact hne
  | true => exact hne.symm

variable (this store peers) in
/-- Each call carries out its edit on the roster, whatever the other one does, and the records of other names
stay as they are. -/
lemma carries_run (hne : (edits false).name ≠ (edits true).name) (moves : List (Bool × Instant)) :
    let x := (start this edits store peers).run this edits moves
    (∀ side, Carries this (edits side) (peers.get? (edits side).name) (x.progress side)
      (x.peers.get? (edits side).name)) ∧
    ∀ key, (∀ side, (edits side).name ≠ key) → x.peers.get? key = peers.get? key := by
  induction moves using List.reverseRecOn with
  | nil =>
    refine ⟨fun side => .waiting fun stage hstage => ?_, fun _ _ => rfl⟩
    rcases start_cases this (edits side) with hp | ⟨fault, hp⟩
    all_goals cases hp.symm.trans hstage
  | append_singleton moves move ih =>
    obtain ⟨mover, now⟩ := move
    obtain ⟨hcarries, hothers⟩ := ih
    obtain ⟨hadvance, hother⟩ :=
      advance_step this edits ((start this edits store peers).run this edits moves) mover now
    simp only [run_snoc]
    refine ⟨fun side => ?_, fun key hkey => ?_⟩
    · obtain rfl | rfl := Bool.eq_or_eq_not side mover
      · exact (hcarries side).advance hadvance
      · rw [hother, (hcarries mover).get?_advance hadvance (names_ne hne mover)]
        exact hcarries (!mover)
    · rw [(hcarries mover).get?_advance hadvance (hkey mover)]
      exact hothers key hkey

/-! ### The file -/

/-- The file of the store holds its entries, or one of the calls is about to write them to it. -/
structure IsFiled (x : EditRace) : Prop where
  file : ∃ old, x.store.backing = .file old
  rendered : ∀ side content, x.progress side = .writing content → content = Toml.render x.store.entries
  saved : x.store.IsSaved ∨ ∃ side, (x.progress side).IsFlushing

namespace IsFiled

variable {x x' : EditRace} {mover : Bool}

/-- A call that is not flushing takes a step and leaves the store alone. -/
lemma keep (h : x.IsFiled) (hother : x'.progress (!mover) = x.progress (!mover))
    (hstore : x'.store = x.store) (hp : ¬ (x.progress mover).IsFlushing)
    (hp' : ¬ (x'.progress mover).IsFlushing) : x'.IsFiled where
  file := hstore ▸ h.file
  rendered side content hwriting := by
    obtain rfl | rfl := Bool.eq_or_eq_not side mover
    · exact absurd (.inr ⟨content, hwriting⟩) hp'
    · exact hstore ▸ h.rendered _ content (hother ▸ hwriting)
  saved := by
    rcases h.saved with hsaved | ⟨side, hflushing⟩
    · exact .inl (hstore ▸ hsaved)
    · obtain rfl | rfl := Bool.eq_or_eq_not side mover
      · exact absurd hflushing hp
      · exact .inr ⟨_, hother ▸ hflushing⟩

/-- As long as the calls do not meet between reading and flushing, each of them writes what it has set. -/
lemma step (h : x.IsFiled) (hmeet : ¬ ∀ side, (x.progress side).IsStoring) (move : Bool × Instant) :
    (x.step this edits move).IsFiled := by
  obtain ⟨mover, now⟩ := move
  obtain ⟨hadvance, hother⟩ := advance_step this edits x mover now
  generalize x.step this edits (mover, now) = x' at hadvance hother
  obtain ⟨old, hold⟩ := h.file
  generalize hp : x.progress mover = p at hadvance
  generalize hp' : x'.progress mover = p' at hadvance
  generalize hstore : x'.store = s' at hadvance
  generalize x'.peers = r' at hadvance
  cases hadvance with
  | unread | skipped | read | edited | failed =>
    exact h.keep hother hstore (by simp [hp, IsFlushing]) (by simp [hp', IsFlushing])
  | set =>
    -- the other call is neither about to set the list nor about to flush it
    have hoff : ¬ (x.progress (!mover)).IsStoring := fun hq => hmeet fun side => by
      obtain rfl | rfl := Bool.eq_or_eq_not side mover
      · exact .inl ⟨_, hp⟩
      · exact hq
    refine ⟨⟨old, hstore ▸ hold⟩, fun side content hwriting => ?_, .inr ⟨mover, .inl hp'⟩⟩
    obtain rfl | rfl := Bool.eq_or_eq_not side mover
    · cases hp'.symm.trans hwriting
    · exact absurd (.inr (.inr ⟨content, hother ▸ hwriting⟩)) hoff
  | rendered =>
    refine ⟨⟨old, hstore ▸ hold⟩, fun side content hwriting => ?_, .inr ⟨mover, .inr ⟨_, hp'⟩⟩⟩
    obtain rfl | rfl := Bool.eq_or_eq_not side mover
    · cases hp'.symm.trans hwriting
      rw [hstore]
    · exact hstore ▸ h.rendered _ content (hother ▸ hwriting)
  | unwritten hwrite =>
    rw [Store.write_of_file hold] at hwrite
    cases hwrite
  | @written content _ hwrite =>
    have hs' := Except.ok.inj ((Store.write_of_file hold content).symm.trans hwrite)
    rw [← hstore] at hs'
    have hentries : x'.store.entries = x.store.entries := by rw [← hs']
    have hbacking : x'.store.backing = .file content := by rw [← hs']
    have hcontent := h.rendered mover content hp
    rw [← hentries] at hcontent
    refine ⟨⟨content, hbacking⟩, fun side content' hwriting => ?_, .inl ⟨content, hbacking, .inl hcontent⟩⟩
    obtain rfl | rfl := Bool.eq_or_eq_not side mover
    · cases hp'.symm.trans hwriting
    · exact hentries ▸ h.rendered _ content' (hother ▸ hwriting)

end IsFiled

/-- As long as the calls do not both store at once, the file holds the entries, or a call is about to
write them. -/
lemma isFiled_run (hsaved : store.IsSaved) (moves : List (Bool × Instant))
    (hmeet : ¬ Meet this edits IsStoring (start this edits store peers) moves) :
    ((start this edits store peers).run this edits moves).IsFiled := by
  induction moves using List.reverseRecOn with
  | nil =>
    obtain ⟨content, hbacking, -⟩ := id hsaved
    refine ⟨⟨content, hbacking⟩, fun side content hwriting => ?_, .inl hsaved⟩
    rcases start_cases this (edits side) with hp | ⟨fault, hp⟩
    all_goals cases hp.symm.trans hwriting
  | append_singleton moves move ih =>
    rw [run_snoc]
    refine (ih fun hmet => hmeet ((meet_snoc move).2 (.inl hmet))).step (fun hall => hmeet ?_) move
    exact ⟨moves, List.prefix_append moves [move], hall⟩

/-! ### One call alone -/

/-- If one call goes on and the other one stays where it is, this comes out of it, with this store and this
roster in the end. -/
def EndsAs (this : Identity) (edits : Bool → StaticEdit) (side : Bool) (now : Instant) (x : EditRace)
    (result : Except ConfigError Unit) (s : Store) (r : Roster) : Prop :=
  ∃ k, let y := x.run this edits (.replicate k (side, now))
    (y.progress side).outcome? = some result ∧ y.progress (!side) = x.progress (!side) ∧
      y.store = s ∧ y.peers = r

section Alone

variable {side : Bool} {now : Instant} {x : EditRace} {result : Except ConfigError Unit} {s : Store}
  {r : Roster}

lemma endsAs_of_outcome? {p : EditProgress} (hp : x.progress side = p) (h : p.outcome? = some result) :
    EndsAs this edits side now x result x.store x.peers := ⟨0, hp ▸ h, rfl, rfl, rfl⟩

/-- The call takes its first step, and then it goes on. -/
lemma endsAs_of_step {p : EditProgress} {s' : Store} {r' : Roster} {p' : EditProgress}
    (hp : x.progress side = p) (hstep : p.step this (edits side) now x.store x.peers = (s', r', p'))
    (h : EndsAs this edits side now ⟨s', r', Function.update x.progress side p'⟩ result s r) :
    EndsAs this edits side now x result s r := by
  have hx : x.step this edits (side, now) = ⟨s', r', Function.update x.progress side p'⟩ := by
    simp only [EditRace.step, hp, hstep]
  obtain ⟨k, hresult, hother, hs, hr⟩ := h
  rw [← hx] at hresult hother hs hr
  exact ⟨k + 1, hresult, hother.trans (advance_step this edits x side now).2, hs, hr⟩

lemma endsAs_of_editing {stage : Stage} (hp : x.progress side = .editing stage) :
    EndsAs this edits side now x (.ok ()) x.store (stage.finish now x.peers) := by
  refine endsAs_of_step hp (step_editing ..) ?_
  refine endsAs_of_step (Function.update_self ..) (step_editing ..) ?_
  exact endsAs_of_outcome? (Function.update_self ..) (by rw [Stage.step_step, outcome?])

lemma endsAs_of_setting {entries : List StaticNode} (hp : x.progress side = .setting entries) :
    EndsAs this edits side now x (x.store.saveStatic entries).2 (x.store.saveStatic entries).1
      (if x.store.backing = .lost then x.peers else ((edits side).stage this).finish now x.peers) := by
  refine endsAs_of_step hp (step_setting ..) (endsAs_of_step (Function.update_self ..) rfl ?_)
  rw [Store.saveStatic_eq]
  split_ifs with hfile
  · have hwrite := Store.write_of_lost (s := x.store.withStatic entries) hfile
    refine endsAs_of_step (Function.update_self ..) (step_writing_of_error _ _ _ _ (hwrite _)) ?_
    exact endsAs_of_outcome? (Function.update_self ..) rfl
  · have hwrite := Store.write_render (s := x.store.withStatic entries) hfile
    refine endsAs_of_step (Function.update_self ..) (step_writing_of_ok _ _ _ _ hwrite) ?_
    exact endsAs_of_editing (Function.update_self ..)

end Alone

/-- A call that goes on alone does in its steps what the node does in one go. -/
lemma endsAs_start {σ : Type} (n : EndNode σ) (hstore : n.store = some store) (side : Bool) (now : Instant) :
    ∃ s r, n.edit now (edits side) =
        ({ n with store := some s, view.cluster.nodes := r }, (n.edit now (edits side)).2) ∧
      EndsAs n.this edits side now (start n.this edits store n.view.cluster.nodes)
        (n.edit now (edits side)).2 s r := by
  let x := start n.this edits store n.view.cluster.nodes
  have hx : x.store = store := rfl
  rw [EndNode.edit_eq, EndNode.record]
  cases hfault : (edits side).fault? n.this with
  | some fault =>
    have hp : x.progress side = .failed fault := by simp only [x, start, EditProgress.start, hfault]
    refine ⟨store, _, ?_, endsAs_of_outcome? hp rfl⟩
    simp only [start, ← hstore]
  | none =>
    have hp : x.progress side = .reading := by simp only [x, start, EditProgress.start, hfault]
    simp only [EndNode.editStore, hstore]
    cases hlist : store.staticList with
    | error fault =>
      have hread := step_reading_of_error n.this (edits side) now x.peers (hx ▸ hlist)
      rw [Store.record_of_error hlist]
      exact ⟨store, _, rfl, endsAs_of_step hp hread (endsAs_of_outcome? (Function.update_self ..) rfl)⟩
    | ok entries =>
      have hread := step_reading_of_ok n.this (edits side) now x.peers (hx ▸ hlist)
      rw [Store.record_of_ok hlist]
      cases hwrites : (edits side).writes entries with
      | false =>
        rw [hwrites, if_neg Bool.false_ne_true] at hread
        rw [if_neg Bool.false_ne_true]
        exact ⟨store, _, rfl, endsAs_of_step hp hread (endsAs_of_editing (Function.update_self ..))⟩
      | true =>
        rw [hwrites, if_pos rfl] at hread
        have hsave := endsAs_of_step hp hread (endsAs_of_setting (Function.update_self ..))
        rw [if_pos rfl]
        by_cases hfile : store.backing = .lost
        · simp only [Store.saveStatic_eq, hx, if_pos hfile] at hsave ⊢
          exact ⟨_, _, rfl, hsave⟩
        · simp only [Store.saveStatic_eq, hx, if_neg hfile] at hsave ⊢
          exact ⟨_, _, rfl, hsave⟩

/-! ### What is left of the edits -/

/-- The list has the entries of both edits under their names, and the others as they were. -/
structure KeepsBoth (edits : Bool → StaticEdit) (entries list : List StaticNode) : Prop where
  named : ∀ side, list.filter (·.name == (edits side).name) = (edits side).entries
  others : ∀ name, (∀ side, (edits side).name ≠ name) →
    list.filter (·.name == name) = entries.filter (·.name == name)

/-- An edit leaves the entries of other names alone, so the two that come one after the other are both
kept. -/
lemma keepsBoth_apply (hne : (edits false).name ≠ (edits true).name) (side : Bool) :
    KeepsBoth edits entries ((edits (!side)).apply ((edits side).apply entries)) where
  named side' := by
    rw [StaticEdit.filter_name_apply, StaticEdit.filter_name_apply]
    obtain rfl | rfl := Bool.eq_or_eq_not side' side
    · rw [if_neg (names_ne hne side').symm, if_pos rfl]
    · rw [if_pos rfl]
  others name hname := by
    rw [StaticEdit.filter_name_apply, if_neg (hname _), StaticEdit.filter_name_apply, if_neg (hname _)]

/-- If no call fails, the list has both edits or one of them. -/
lemma InTurn.exists_of_done {progress : Bool → EditProgress} {list : List StaticNode}
    (h : InTurn edits entries progress list) (hdone : ∀ side, progress side = .editing .done) :
    ∃ side, list = (edits (!side)).apply ((edits side).apply entries) := by
  cases h with
  | unread hp => cases (hp true).symm.trans (hdone true)
  | about side hp hq | ahead side hp hq | following side hp hq => cases hq.symm.trans (hdone _)
  | both side => exact ⟨side, rfl⟩

/-- Once both calls are done, a torn list shows only one of the edits. -/
lemma Torn.exists_of_done {progress : Bool → EditProgress} {list : List StaticNode}
    (h : Torn edits entries progress list) (hdone : ∀ side, progress side = .editing .done) :
    ∃ side, list = (edits side).apply entries := by
  cases h with
  | tied hp => cases (hp true).symm.trans (hdone true)
  | overtaken side hp hq => cases hq.symm.trans (hdone _)
  | lost side => exact ⟨side, rfl⟩

/-- Once both edits are in the roster and in the list, the local peers are those of the list. -/
lemma localPeers_of_leaves {x : EditRace} (hne : (edits false).name ≠ (edits true).name) (side : Bool)
    (hleaves : ∀ side, ∃ now, (edits side).Leaves this now (peers.get? (edits side).name)
      (x.peers.get? (edits side).name))
    (hothers : ∀ key, (∀ side, (edits side).name ≠ key) → x.peers.get? key = peers.get? key)
    (hagree : ∀ name, peers.localAt name = (StaticNode.latest? name entries).map (·.identity this)) :
    x.peers.localPeers =
      StaticNode.effective ((edits (!side)).apply ((edits side).apply entries)) := by
  have hlocal (name : String) : x.peers.localAt name =
      (StaticNode.latest? name ((edits (!side)).apply ((edits side).apply entries))).map
        (·.identity this) := by
    rw [StaticEdit.latest?_apply, StaticEdit.latest?_apply]
    by_cases hname : ∃ side, (edits side).name = name
    · obtain ⟨side', rfl⟩ := hname
      obtain ⟨now, hleaves⟩ := hleaves side'
      rw [Roster.localAt, hleaves.localIdentity?_eq]
      obtain rfl | rfl := Bool.eq_or_eq_not side' side
      · rw [if_neg (names_ne hne side').symm, if_pos rfl]
      · rw [if_pos rfl]
    · have hname := not_exists.1 hname
      rw [if_neg (hname _), if_neg (hname _), Roster.localAt_congr (hothers name hname)]
      exact hagree name
  exact Roster.localPeers_eq_effective hlocal

/-- Two calls edit the static peers of a node under different names, step by step, and both succeed.  Then
both edits are in the roster, and nothing else has changed there.  As long as the calls have not met when both
were about to set the list, the list is as if one of them had come after the other: it has the added entries,
none of a deleted name, and the other ones as they were, so that it still agrees with the local peers.  If
they have met, one of the edits is not in the list.  What is in the store is in its file unless the calls
have met between reading and flushing. -/
theorem edits_of_run (hne : (edits false).name ≠ (edits true).name) (hlist : store.staticList = .ok entries)
    {moves : List (Bool × Instant)}
    (hdone : ∀ side, ((start this edits store peers).run this edits moves).progress side = .editing .done) :
    let first := start this edits store peers
    let x := first.run this edits moves
    (∀ side, ∃ now, (edits side).Leaves this now (peers.get? (edits side).name)
      (x.peers.get? (edits side).name)) ∧
    (∀ key, (∀ side, (edits side).name ≠ key) → x.peers.get? key = peers.get? key) ∧
    (store.IsSaved → ¬ Meet this edits IsStoring first moves → x.store.IsSaved) ∧
    ∃ list, x.store.staticList = .ok list ∧
      (¬ Meet this edits IsSetting first moves ∧
          (∃ side, list = (edits (!side)).apply ((edits side).apply entries)) ∧ KeepsBoth edits entries list ∧
          ((∀ name, peers.localAt name = (StaticNode.latest? name entries).map (·.identity this)) →
            x.peers.localPeers = StaticNode.effective list) ∨
        Meet this edits IsSetting first moves ∧ ∃ side, list = (edits side).apply entries ∧
          list.filter (·.name == (edits (!side)).name) = entries.filter (·.name == (edits (!side)).name)) := by
  intro first x
  obtain ⟨hcarries, hothers⟩ := carries_run this store peers hne moves
  have hleaves (side : Bool) : ∃ now, (edits side).Leaves this now (peers.get? (edits side).name)
      (x.peers.get? (edits side).name) := (hdone side ▸ hcarries side).leaves
  refine ⟨hleaves, hothers, fun hsaved hmeet => ?_, ?_⟩
  · refine (isFiled_run hsaved moves hmeet).saved.resolve_right ?_
    rintro ⟨side, hflushing | ⟨content, hflushing⟩⟩
    all_goals cases (hdone side).symm.trans hflushing
  · obtain ⟨list, hread, ⟨side, fault, hfailed⟩ | ⟨hmeet, hturn⟩ | ⟨hmeet, htorn⟩⟩ :=
      standing_run this edits peers hlist moves
    · cases (hdone side).symm.trans hfailed
    · obtain ⟨side, rfl⟩ := hturn.exists_of_done hdone
      exact ⟨_, hread, .inl ⟨hmeet, ⟨side, rfl⟩, keepsBoth_apply hne side,
        localPeers_of_leaves hne side hleaves hothers⟩⟩
    · obtain ⟨side, rfl⟩ := htorn.exists_of_done hdone
      refine ⟨_, hread, .inr ⟨hmeet, side, rfl, ?_⟩⟩
      rw [StaticEdit.filter_name_apply, if_neg (names_ne hne side)]

/-- `b` is deleted and `c` is added.  The addition reads the list once the deletion has set it, before it is
flushed. -/
theorem edits_of_run_in_turn :
    let this : Identity := ⟨"a", "10.0.0.1", 5000, "prod"⟩
    let b : StaticNode := ⟨"b", "10.0.0.2", 5000⟩
    let c : StaticNode := ⟨"c", "10.0.0.3", 5000⟩
    let edits (side : Bool) : StaticEdit := if side then .add c else .delete "b"
    let store : Store := Store.withStatic ⟨[], .file ""⟩ [b]
    let peers := Roster.empty.placeStatic [b] this 0
    let moves := ([false, false, true, false, true, false, true, false, true, true, true].map (·, 1))
    let x := (start this edits store peers).run this edits moves
    (edits false).name ≠ (edits true).name ∧ store.staticList = .ok [b] ∧
      (∀ side, x.progress side = .editing .done) ∧ x.store.staticList = .ok [c] ∧
      x.peers.localPeers = StaticNode.effective [c] := by
  intro this b c edits store peers moves x
  have hne : (edits false).name ≠ (edits true).name := by decide
  have hlist : store.staticList = .ok [b] := by decide +kernel
  have hdone : ∀ side, x.progress side = .editing .done := by decide +kernel
  have hread : x.store.staticList = .ok [c] := by decide +kernel
  have hagree (name : String) :
      peers.localAt name = (StaticNode.latest? name [b]).map (·.identity this) := by
    rw [Roster.localAt, Roster.get?_placeStatic_eq]
    cases StaticNode.latest? name [b] <;> rfl
  have hlost (side : Bool) : [c] ≠ (edits side).apply [b] := by
    revert side
    decide
  have hx : x = (start this edits store peers).run this edits moves := rfl
  clear_value x edits moves
  subst hx
  obtain ⟨-, -, -, list, hlist', ⟨-, -, -, hlocal⟩ | ⟨-, side, hone, -⟩⟩ := edits_of_run hne hlist hdone
  · obtain rfl : [c] = list := Except.ok.inj (hread.symm.trans hlist')
    exact ⟨hne, hlist, hdone, hread, hlocal hagree⟩
  · obtain rfl : [c] = list := Except.ok.inj (hread.symm.trans hlist')
    exact absurd hone (hlost side)

/-- `b` and `c` are added to a list that has `x`.  Both calls read the list before one of them sets it: both
succeed, and both peers are local ones, but the list has `c` only, and so a node that is built from the store
does not know `b`. -/
theorem lost_edit_of_overlap :
    let this : Identity := ⟨"a", "10.0.0.1", 5000, "prod"⟩
    let x : StaticNode := ⟨"x", "10.0.0.9", 5000⟩
    let b : StaticNode := ⟨"b", "10.0.0.2", 5000⟩
    let c : StaticNode := ⟨"c", "10.0.0.3", 5000⟩
    let edits (side : Bool) : StaticEdit := .add (if side then c else b)
    let store : Store := Store.withStatic ⟨[], .file ""⟩ [x]
    let moves := ([false, true, false, false, false, true, true, true, false, false, true, true].map (·, 1))
    let last := (start this edits store (Roster.empty.placeStatic [x] this 0)).run this edits moves
    store.staticList = .ok [x] ∧ (∀ side, last.progress side = .editing .done) ∧
      last.store.staticList = .ok [x, c] ∧ last.store.reopen.toOption.map (·.staticList) = some (.ok [x, c]) ∧
      ["x", "b", "c"].map (last.peers.localAt ·) = [x, b, c].map fun e => some (e.identity this) := by
  intro this x b c edits store moves last
  exact ⟨by decide +kernel, by decide +kernel, by decide +kernel, by decide +kernel, by decide +kernel⟩

end EditRace

end Flotilla
