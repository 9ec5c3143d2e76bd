import Flotilla.Proofs.EndNode.Events
import Flotilla.Proofs.Settings.Intervals

/-!
# When no answer is given

A store leads to a node, or to an error that says what is wrong with it, unless a number in it is too large:
three heartbeat intervals that do not fit into the seconds of a span, or more calls at once than can be
counted.  Nothing else in a store can keep it from being answered.
-/

namespace Flotilla

/-! ### Numbers of a store -/

namespace Store

variable {t : Store} {key : String}

lemma getPositive?_eq_some {n : ℕ} (h : t.getPositive? key = .ok (some n)) :
    ∃ m, t.getInt key = .ok m ∧ 0 < m.toInt ∧ m.toInt = n := by
  unfold getPositive? at h
  split at h
  · rename_i m hint
    split_ifs at h with hpositive
    cases h
    exact ⟨m, hint, hpositive, (Int.toNat_of_nonneg hpositive.le).symm⟩
  · cases h
  · cases h

/-- Where no number is used, there is no whole number under the key. -/
lemma getInt_ne_ok_of_getPositive? (h : t.getPositive? key = .ok none) (m : Int64) : t.getInt key ≠ .ok m := by
  intro hint
  simp only [getPositive?, hint] at h
  split_ifs at h
  cases h

/-- A number that is beyond a bound is one in the store, as long as the usual one is not. -/
lemma le_getD_iff {n? : Option ℕ} (h : t.getPositive? key = .ok n?) {usual bound : ℕ} (husual : usual < bound) :
    bound ≤ n?.getD usual ↔ ∃ m, t.getInt key = .ok m ∧ (bound : ℤ) ≤ m.toInt := by
  cases n? with
  | none =>
    refine iff_of_false (not_le.2 husual) ?_
    rintro ⟨m, hint, -⟩
    exact getInt_ne_ok_of_getPositive? h m hint
  | some n =>
    obtain ⟨m, hint, -, hm⟩ := getPositive?_eq_some h
    rw [hint, Option.getD_some]
    constructor
    · intro hle
      exact ⟨m, rfl, by omega⟩
    · rintro ⟨_, hm', hle⟩
      cases hm'
      omega

/-- With or without a value in the store, the number is positive. -/
lemma getD_pos_of_getPositive? {n? : Option ℕ} (h : t.getPositive? key = .ok n?) {usual : ℕ}
    (husual : 0 < usual) : 0 < n?.getD usual := by
  cases n? with
  | none => exact husual
  | some n =>
    obtain ⟨m, -, hpositive, hm⟩ := getPositive?_eq_some h
    exact Int.natCast_pos.1 (hm ▸ hpositive)

/-- Spans are read in whole seconds. -/
lemma exists_of_getSeconds {span : Span} {usual : ℕ} (h : t.getSeconds key (.seconds usual) = .ok span) :
    ∃ n?, t.getPositive? key = .ok n? ∧ span = .seconds (n?.getD usual) := by
  obtain ⟨n?, hn, h⟩ := exists_of_bind_eq_ok h
  refine ⟨n?, hn, ?_⟩
  cases n? <;> cases h <;> rfl

end Store

/-! ### Settings from a store -/

namespace Settings

variable {σ : Type} {engine : σ} {s : Settings σ} {t : Store} {now : Instant}

/-- The numbers in the settings from a store. -/
lemma exists_numbers_of_ofStore (h : ofStore t engine = .ok s) :
    ∃ heartbeat eviction rpcTimeout limit,
      t.getPositive? "membership.heartbeat_interval_secs" = .ok heartbeat ∧
      t.getPositive? "membership.eviction_interval_secs" = .ok eviction ∧
      t.getPositive? "membership.rpc_timeout_secs" = .ok rpcTimeout ∧
      t.getPositive? "membership.max_in_flight" = .ok limit ∧
      s.intervals = ⟨.seconds (heartbeat.getD 10), .seconds (eviction.getD 15), .seconds (rpcTimeout.getD 3)⟩ ∧
      s.maxInFlight = limit.getD 64 := by
  obtain ⟨name, -, h⟩ := exists_of_bind_eq_ok h
  obtain ⟨host, -, h⟩ := exists_of_bind_eq_ok h
  obtain ⟨port, -, h⟩ := exists_of_bind_eq_ok h
  obtain ⟨cluster, -, h⟩ := exists_of_bind_eq_ok h
  obtain ⟨token, -, h⟩ := exists_of_bind_eq_ok h
  obtain ⟨center, -, h⟩ := exists_of_bind_eq_ok h
  obtain ⟨beats, hbeats, h⟩ := exists_of_bind_eq_ok h
  obtain ⟨evictions, hevictions, h⟩ := exists_of_bind_eq_ok h
  obtain ⟨calls, hcalls, h⟩ := exists_of_bind_eq_ok h
  obtain ⟨limit, hlimit, h⟩ := exists_of_bind_eq_ok h
  cases h
  obtain ⟨heartbeat, hheartbeat, rfl⟩ := Store.exists_of_getSeconds hbeats
  obtain ⟨eviction, heviction, rfl⟩ := Store.exists_of_getSeconds hevictions
  obtain ⟨rpcTimeout, hrpcTimeout, rfl⟩ := Store.exists_of_getSeconds hcalls
  exact ⟨heartbeat, eviction, rpcTimeout, limit, hheartbeat, heviction, hrpcTimeout, hlimit, rfl, rfl⟩

/-- The intervals from a store are beyond what can be counted if three heartbeat intervals are. -/
lemma check_intervals_eq_outOfRange_iff (h : ofStore t engine = .ok s) :
    s.intervals.check = .error .outOfRange ↔
      ∃ n, t.getInt "membership.heartbeat_interval_secs" = .ok n ∧ (2 : ℤ) ^ 64 ≤ 3 * n.toInt := by
  obtain ⟨heartbeat, eviction, rpcTimeout, _, hheartbeat, heviction, hrpcTimeout, -, hintervals, -⟩ :=
    exists_numbers_of_ofStore h
  have hpositive : 0 < s.intervals.heartbeat ∧ 0 < s.intervals.eviction ∧ 0 < s.intervals.rpcTimeout := by
    rw [hintervals]
    exact ⟨Nat.mul_pos (Store.getD_pos_of_getPositive? hheartbeat (by decide)) (by decide),
      Nat.mul_pos (Store.getD_pos_of_getPositive? heviction (by decide)) (by decide),
      Nat.mul_pos (Store.getD_pos_of_getPositive? hrpcTimeout (by decide)) (by decide)⟩
  -- the least number of seconds of which three times as many are 2 ^ 64 or more
  have hbound := Store.le_getD_iff hheartbeat (by norm_num : 10 < 6148914691236517206)
  have hspan : Intervals.spanLimit ≤ s.intervals.heartbeat * Intervals.missedBeats ↔
      6148914691236517206 ≤ heartbeat.getD 10 := by
    have hlimit : Intervals.spanLimit = 18446744073709551616 * 1000000000 := rfl
    have hbeats : s.intervals.heartbeat * Intervals.missedBeats = heartbeat.getD 10 * 1000000000 * 3 := by
      rw [hintervals]
      rfl
    rw [hlimit, hbeats]
    omega
  rw [Intervals.check_eq_outOfRange_iff, and_iff_right hpositive, hspan, hbound]
  refine exists_congr fun n => and_congr_right fun _ => ?_
  omega

/-- What is under way at once is beyond what can be counted if the number in the store is. -/
lemma maxLimit_lt_iff (h : ofStore t engine = .ok s) :
    max s.maxInFlight 1 > maxLimit ↔
      ∃ n, t.getInt "membership.max_in_flight" = .ok n ∧ (2 : ℤ) ^ 61 ≤ n.toInt := by
  obtain ⟨_, _, _, limit, -, -, -, hlimit, -, hmax⟩ := exists_numbers_of_ofStore h
  have hbound := Store.le_getD_iff hlimit (by norm_num : 64 < 2 ^ 61)
  have hlimit : max s.maxInFlight 1 > maxLimit ↔ 2 ^ 61 ≤ limit.getD 64 := by
    rw [hmax, maxLimit]
    omega
  rw [hlimit, hbound]
  norm_num

/-- Neither a node nor an error is given if a number is too large, and what is checked before it is in
order. -/
lemma build_eq_outOfRange_iff : s.build now = .error .outOfRange ↔
    s.this.check = .ok () ∧ (s.intervals.check = .error .outOfRange ∨
      max s.maxInFlight 1 > maxLimit ∧ ∃ n, { s with maxInFlight := 1 }.build now = .ok n) := by
  have hload : { s with maxInFlight := 1 }.loadPeers now = s.loadPeers now := rfl
  have hplace (v : PeerView) : { s with maxInFlight := 1 }.placeCenter v now = s.placeCenter v now := rfl
  have hpositive : maxLimit ≠ 0 := by decide
  cases hthis : s.this.check with
  | error e => simp [build, hthis, Except.mapError, bind, Except.bind]
  | ok u =>
    cases hintervals : s.intervals.check with
    | error e => simp [build, hthis, hintervals, Except.mapError, bind, Except.bind]
    | ok u =>
      cases hnodes : s.loadPeers now with
      | error e => simp [build, hthis, hintervals, hload, hnodes, Except.mapError, bind, Except.bind]
      | ok nodes =>
        cases hview : s.placeCenter { PeerView.new s.this s.clusterToken with cluster.nodes := nodes } now with
        | error e =>
          simp [build, hthis, hintervals, hload, hnodes, hplace, hview, Except.mapError, bind, Except.bind]
        | ok v =>
          simp [build, hthis, hintervals, hload, hnodes, hplace, hview, hpositive, Except.mapError, bind, Except.bind,
            pure, Except.pure]

end Settings

/-! ### Answers -/

variable {σ : Type}

/-- A node is given, or an error that says what is wrong with the configuration. -/
def IsAnswered (r : Except BuildError (EndNode σ)) : Prop :=
  (∃ n, r = .ok n) ∨ ∃ e, r = .error (.config e)

instance : ∀ r : Except BuildError (EndNode σ), Decidable (IsAnswered r)
  | .ok n => .isTrue (.inl ⟨n, rfl⟩)
  | .error (.config e) => .isTrue (.inr ⟨e, rfl⟩)
  | .error .outOfRange => .isFalse (by rintro (⟨_, h⟩ | ⟨_, h⟩) <;> cases h)

lemma not_isAnswered_iff {r : Except BuildError (EndNode σ)} : ¬ IsAnswered r ↔ r = .error .outOfRange := by
  rcases r with (e | _) | n <;> simp [IsAnswered]

namespace Store

def buildNode (t : Store) (engine : σ) (now : Instant) : Except BuildError (EndNode σ) := do
  (← (Settings.ofStore t engine).mapError .config).build now

lemma buildNode_eq_outOfRange_iff {t : Store} {engine : σ} {now : Instant} :
    t.buildNode engine now = .error .outOfRange ↔
      ∃ s, Settings.ofStore t engine = .ok s ∧ s.build now = .error .outOfRange := by
  rw [buildNode]
  cases Settings.ofStore t engine <;> simp [Except.mapError, bind, Except.bind]

/-- Intervals are accepted exactly if all are positive, three heartbeat intervals are at most a minute, to
the nanosecond, and the timeout of calls is below the heartbeat interval.  A store is answered with a node or
an error unless, its identity being in order, three times its heartbeat interval is 2 ^ 64 seconds or more,
or the node could be built but for a limit of 2 ^ 61 calls or more. -/
theorem isAnswered_buildNode (i : Intervals) (t : Store) (engine : σ) (now : Instant) :
    (i.check = .ok () ↔
      (0 < i.heartbeat ∧ 0 < i.eviction ∧ 0 < i.rpcTimeout) ∧
        3 * i.heartbeat ≤ .seconds 60 ∧ i.rpcTimeout < i.heartbeat) ∧
    (¬ IsAnswered (t.buildNode engine now) ↔
      ∃ s, Settings.ofStore t engine = .ok s ∧ s.this.check = .ok () ∧
        ((∃ n, t.getInt "membership.heartbeat_interval_secs" = .ok n ∧ (2 : ℤ) ^ 64 ≤ 3 * n.toInt) ∨
          (∃ n, t.getInt "membership.max_in_flight" = .ok n ∧ (2 : ℤ) ^ 61 ≤ n.toInt) ∧
            ∃ n, { s with maxInFlight := 1 }.build now = .ok n)) := by
  constructor
  · rw [Intervals.check_eq_ok_iff, Intervals.missedBeats, Nat.mul_comm, heartbeatTimeout]
  · rw [not_isAnswered_iff, buildNode_eq_outOfRange_iff]
    refine exists_congr fun s => and_congr_right fun hstore => ?_
    rw [Settings.build_eq_outOfRange_iff, Settings.check_intervals_eq_outOfRange_iff hstore,
      Settings.maxLimit_lt_iff hstore]

/-- A document with the greatest number that can be written for one of the members of its table of
membership. -/
def extreme (member : String) : String :=
  "[node]\nname = \"a\"\nhost = \"10.0.0.1\"\nport = 5000\n\n" ++
  "[cluster]\nname = \"prod\"\ntoken = \"secret\"\n\n" ++
  "[membership]\n" ++ member ++ " = 9223372036854775807\n"

/-- Neither the greatest heartbeat interval nor the greatest number of calls at once is answered. -/
theorem unanswered_extremes :
    (∃ t ∈ (parse (extreme "heartbeat_interval_secs")).toOption,
      ¬ IsAnswered (t.buildNode Unconfigured.mk 0)) ∧
    ∃ t ∈ (parse (extreme "max_in_flight")).toOption, ¬ IsAnswered (t.buildNode Unconfigured.mk 0) := by
  decide +kernel

end Store

end Flotilla
