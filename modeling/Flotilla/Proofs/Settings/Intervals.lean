import Flotilla.Proofs.Decimal.Rounding
import Flotilla.Settings

/-!
# Which intervals are accepted

The heartbeat interval is compared with the heartbeat timeout as a floating-point number of seconds.  A
limit of whole seconds is a floating-point number itself, and so is a number less than a nanosecond above
it, so that no rounding can make the comparison wrong by a nanosecond.
-/

namespace Flotilla

namespace Span

open Binary64

variable {d limit : ℕ}

/-- Seconds are a sum of the whole ones, rounded, and of the rounded quotient of the rest. -/
lemma exists_inSeconds?_eq (d : ℕ) : ∃ fraction : Binary64, fraction.negative = false ∧
    IsRounding ((d % 1000000000 : ℕ) / 1000000000) (some fraction) ∧
    inSeconds? d = (ofRatio? false (d / 1000000000) 1).bind (·.add? fraction) := by
  have hrest : d % 1000000000 < 1000000000 := Nat.mod_lt _ (by decide)
  obtain ⟨rest, hrestEq, hrestSign, hrestValue⟩ :=
    exists_ofRatio?_one (n := d % 1000000000) (hrest.le.trans (by decide))
  obtain ⟨billion, hbillionEq, hbillionSign, hbillionValue⟩ := exists_ofRatio?_one (n := 1000000000) (by decide)
  have hround := isRounding_div? hrestSign hbillionSign (by rw [hbillionValue]; norm_num)
  have hle : rest.value / billion.value ≤ (1 : ℕ) := by
    rw [hrestValue, hbillionValue, Nat.cast_one, div_le_one (by norm_num)]
    exact_mod_cast hrest.le
  obtain ⟨fraction, hfraction, -⟩ :=
    hround.upper (1 : ℕ) (isRepresentable_natCast (by decide)) (natCast_lt_of_le (by decide)) hle
  refine ⟨fraction, hround.negative _ hfraction, ?_, ?_⟩
  · rw [hfraction, hrestValue, hbillionValue] at hround
    exact_mod_cast hround
  · simp [inSeconds?, hrestEq, hbillionEq, hfraction, bind]

/-- A span within a limit of whole seconds has at most as many seconds after rounding. -/
lemma exists_inSeconds?_le (hlimit : limit ≤ 2 ^ 22) (h : d ≤ seconds limit) :
    ∃ x, inSeconds? d = some x ∧ x.value ≤ limit := by
  rw [seconds] at h
  obtain ⟨fraction, hsign, hfraction, heq⟩ := exists_inSeconds?_eq d
  obtain ⟨whole, hwhole, hwholeSign, hwholeValue⟩ :=
    exists_ofRatio?_one (n := d / 1000000000) (by simp only [precision]; omega)
  have hlimit' : limit ≤ 2 ^ precision := hlimit.trans (by decide)
  -- the rest of a second needs a whole one, if there is a rest
  obtain ⟨room, hroom, hrest, hsum⟩ : ∃ room : ℕ, room ≤ 1 ∧
      ((d % 1000000000 : ℕ) : ℚ) / 1000000000 ≤ room ∧ d / 1000000000 + room ≤ limit := by
    by_cases hzero : d % 1000000000 = 0
    · exact ⟨0, by decide, by rw [hzero]; simp, by omega⟩
    · refine ⟨1, le_rfl, ?_, by omega⟩
      rw [Nat.cast_one, div_le_one (by norm_num)]
      exact_mod_cast (Nat.mod_lt d (by decide)).le
  have hroom' : room ≤ 2 ^ precision := hroom.trans (by decide)
  obtain ⟨_, hsome, hle⟩ := hfraction.upper room (isRepresentable_natCast hroom') (natCast_lt_of_le hroom') hrest
  cases hsome
  have hbound : whole.value + fraction.value ≤ limit := by
    rw [hwholeValue]
    calc ((d / 1000000000 : ℕ) : ℚ) + fraction.value ≤ (d / 1000000000 : ℕ) + room := by gcongr
      _ ≤ limit := by exact_mod_cast hsum
  obtain ⟨x, hx, hxle⟩ := (isRounding_add? hwholeSign hsign).upper limit (isRepresentable_natCast hlimit')
    (natCast_lt_of_le hlimit') hbound
  exact ⟨x, by rw [heq, hwhole, Option.bind_some, hx], hxle⟩

/-- What is below the whole seconds and the rest of a second is below the rounded seconds. -/
lemma le_value_of_inSeconds? {x : Binary64} (hx : inSeconds? d = some x) {n : ℕ} {z : ℚ}
    (hn : n ≤ 2 ^ precision) (hwhole : n ≤ d / 1000000000) (hz : IsRepresentable z)
    (hrest : z ≤ (d % 1000000000 : ℕ) / 1000000000) (hsum : IsRepresentable (n + z)) : n + z ≤ x.value := by
  obtain ⟨fraction, hsign, hfraction, heq⟩ := exists_inSeconds?_eq d
  rw [heq, Option.bind_eq_some_iff] at hx
  obtain ⟨whole, hwholeEq, hx⟩ := hx
  have hround := isRounding_ofRatio? (d / 1000000000) one_pos
  rw [Nat.cast_one, div_one] at hround
  have hwholeLe : (n : ℚ) ≤ whole.value :=
    hround.lower whole n hwholeEq (isRepresentable_natCast hn) (Nat.cast_le.2 hwhole)
  have hfractionLe : z ≤ fraction.value := hfraction.lower fraction z rfl hz hrest
  exact (isRounding_add? (hround.negative whole hwholeEq) hsign).lower x _ hx hsum
    (add_le_add hwholeLe hfractionLe)

/-- A span of at least a limit of whole seconds has at least as many seconds after rounding. -/
lemma natCast_le_value_of_inSeconds? (hlimit : limit ≤ 2 ^ 23) (h : seconds limit ≤ d) {x : Binary64}
    (hx : inSeconds? d = some x) : limit ≤ x.value := by
  have hlimit' : limit ≤ 2 ^ precision := hlimit.trans (by decide)
  have hwhole : limit ≤ d / 1000000000 := (Nat.le_div_iff_mul_le (by decide)).2 h
  have hle := le_value_of_inSeconds? hx (z := 0) hlimit' hwhole (isRepresentable_natCast (n := 0) (by decide))
    (by positivity) (by rw [add_zero]; exact isRepresentable_natCast hlimit')
  rwa [add_zero] at hle

/-- A span beyond a limit of whole seconds has more seconds also after rounding. -/
lemma natCast_lt_value_of_inSeconds? (hlimit : limit ≤ 2 ^ 22) (h : seconds limit < d) {x : Binary64}
    (hx : inSeconds? d = some x) : limit < x.value := by
  rcases le_or_gt (seconds (limit + 1)) d with hnext | hnext
  · have hle := natCast_le_value_of_inSeconds? (by omega) hnext hx
    push_cast at hle
    linarith
  · -- the rest is at least one nanosecond, which is more than 2 ^ -30 seconds
    have hlow : limit * 1000000000 < d := h
    have hhigh : d < (limit + 1) * 1000000000 := hnext
    have hwhole : limit ≤ d / 1000000000 := by omega
    have hpositive : 1 ≤ d % 1000000000 := by omega
    have hrest : (1 : ℚ) ≤ (d % 1000000000 : ℕ) := by exact_mod_cast hpositive
    have hsmall : IsRepresentable (2 ^ (-30 : ℤ)) := ⟨1, -30, by simp, by decide, by decide⟩
    have hsum : IsRepresentable (limit + 2 ^ (-30 : ℤ)) := by
      refine ⟨limit * 2 ^ 30 + 1, -30, ?_, by rw [precision]; omega, by decide⟩
      push_cast
      norm_num
      ring
    have hle := le_value_of_inSeconds? hx (hlimit.trans (by decide)) hwhole hsmall
      (by rw [le_div_iff₀ (by norm_num)]; norm_num; linarith) hsum
    have hpos := two_zpow_pos (-30)
    linarith

/-- With a limit of whole seconds the comparison is exact. -/
theorem exceeds_seconds_iff (hlimit : limit ≤ 2 ^ 22) : exceeds d (seconds limit) = true ↔ seconds limit < d := by
  obtain ⟨y, hy, hle⟩ := exists_inSeconds?_le hlimit le_rfl
  have hvalue : y.value = limit :=
    le_antisymm hle (natCast_le_value_of_inSeconds? (hlimit.trans (by decide)) le_rfl hy)
  rw [exceeds, hy]
  rcases le_or_gt d (seconds limit) with h | h
  · obtain ⟨x, hx, hxle⟩ := exists_inSeconds?_le hlimit h
    rw [hx]
    simp only [decide_eq_true_eq, lt_iff_value_lt, hvalue]
    exact iff_of_false (not_lt.2 hxle) (not_lt.2 h)
  · cases hx : inSeconds? d with
    | none => exact iff_of_true rfl h
    | some x =>
      simp only [decide_eq_true_eq, lt_iff_value_lt, hvalue]
      exact iff_of_true (natCast_lt_value_of_inSeconds? hlimit h hx) h

end Span

namespace Intervals

variable {i : Intervals}

lemma not_zero_iff : ¬ (i.heartbeat = 0 ∨ i.eviction = 0 ∨ i.rpcTimeout = 0) ↔
    0 < i.heartbeat ∧ 0 < i.eviction ∧ 0 < i.rpcTimeout := by
  simp only [not_or, Nat.pos_iff_ne_zero]

/-- Intervals are accepted if all are positive, three beats fit into the heartbeat timeout and a call is
given up before the next beat. -/
lemma check_eq_ok_iff : i.check = .ok () ↔
    (0 < i.heartbeat ∧ 0 < i.eviction ∧ 0 < i.rpcTimeout) ∧
      i.heartbeat * missedBeats ≤ heartbeatTimeout ∧ i.rpcTimeout < i.heartbeat := by
  have hexceeds : (i.heartbeat * missedBeats).exceeds heartbeatTimeout = true ↔
      heartbeatTimeout < i.heartbeat * missedBeats := Span.exceeds_seconds_iff (by decide)
  have hlimit : heartbeatTimeout < spanLimit := by decide
  constructor
  · intro h
    rw [check] at h
    split_ifs at h with hzero hspan hlong htimeout
    exact ⟨not_zero_iff.1 hzero, not_lt.1 (mt hexceeds.2 hlong), not_le.1 htimeout⟩
  · rintro ⟨hpositive, hroom, htimeout⟩
    rw [check, if_neg (not_zero_iff.2 hpositive), if_neg (not_le.2 (hroom.trans_lt hlimit)),
      if_neg (mt hexceeds.1 (not_lt.2 hroom)), if_neg (not_le.2 htimeout)]

/-- Three heartbeat intervals are not compared at all if they cannot be counted. -/
lemma check_eq_outOfRange_iff : i.check = .error .outOfRange ↔
    (0 < i.heartbeat ∧ 0 < i.eviction ∧ 0 < i.rpcTimeout) ∧ spanLimit ≤ i.heartbeat * missedBeats := by
  constructor
  · intro h
    rw [check] at h
    split_ifs at h with hzero hspan <;> cases h
    exact ⟨not_zero_iff.1 hzero, hspan⟩
  · rintro ⟨hpositive, hspan⟩
    rw [check, if_neg (not_zero_iff.2 hpositive), if_pos hspan]

end Intervals

end Flotilla
