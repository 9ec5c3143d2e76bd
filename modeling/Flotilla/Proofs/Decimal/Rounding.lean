import Mathlib.Algebra.Order.Field.Power
import Mathlib.Data.Rat.Floor
import Mathlib.Tactic.Linarith
import Mathlib.Tactic.NormNum
import Mathlib.Tactic.Positivity
import Mathlib.Tactic.FieldSimp
import Mathlib.Tactic.Ring
import Flotilla.Decimal.Binary64

/-!
# Rounding does not cross a floating-point number

The result of an operation on floating-point numbers lies on the same side of every floating-point number
as the exact result.  This is all that comparisons after a few operations need: a bound that is itself a
floating-point number goes through each of them.
-/

namespace Flotilla

namespace Binary64

/-! ### Values -/

def value (x : Binary64) : ℚ := (if x.negative then -1 else 1) * (x.mantissa * 2 ^ x.exponent)

/-- The values with a mantissa of at most 53 bits, above or at the least exponent. -/
def IsRepresentable (z : ℚ) : Prop := ∃ (k : ℕ) (j : ℤ), z = k * 2 ^ j ∧ k ≤ 2 ^ precision ∧ minExponent ≤ j

/-- Whole numbers up to 2 ^ 53 are kept exactly. -/
lemma isRepresentable_natCast {n : ℕ} (h : n ≤ 2 ^ precision) : IsRepresentable n :=
  ⟨n, 0, by simp, h, by decide⟩

lemma two_zpow_pos (e : ℤ) : (0 : ℚ) < 2 ^ e := zpow_pos two_pos e

lemma snd_ratio_pos (x : Binary64) : 0 < x.ratio.2 := by
  rw [ratio]
  split
  · exact one_pos
  · exact Nat.two_pow_pos _

/-- Numerator and denominator are those of the absolute value. -/
lemma ratio_eq (x : Binary64) : (x.ratio.1 : ℚ) / x.ratio.2 = x.mantissa * 2 ^ x.exponent := by
  rw [ratio]
  split
  · rename_i h
    obtain ⟨n, hn⟩ := Int.eq_ofNat_of_zero_le h
    simp [hn]
  · rename_i h
    obtain ⟨n, he⟩ : ∃ n : ℕ, x.exponent = -(n : ℤ) := ⟨(-x.exponent).toNat, by omega⟩
    simp [he, div_eq_mul_inv]

lemma signedRatio_eq (x : Binary64) : (x.signedRatio.1 : ℚ) / x.signedRatio.2 = x.value := by
  rw [value, ← ratio_eq, signedRatio]
  cases x.negative <;> simp [neg_div]

/-- The numbers are ordered as their values are. -/
lemma lt_iff_value_lt {x y : Binary64} : x < y ↔ x.value < y.value := by
  have hx : (0 : ℚ) < x.signedRatio.2 := Nat.cast_pos.2 x.snd_ratio_pos
  have hy : (0 : ℚ) < y.signedRatio.2 := Nat.cast_pos.2 y.snd_ratio_pos
  rw [← signedRatio_eq, ← signedRatio_eq, div_lt_div_iff₀ hx hy]
  exact_mod_cast Iff.rfl

/-! ### Rounding to a whole number -/

/-- Rounding does not go below a whole number that the quotient reaches. -/
lemma le_roundDiv {num den t : ℕ} (hden : 0 < den) (h : t * den ≤ num) : t ≤ roundDiv num den := by
  have hq : t ≤ num / den := (Nat.le_div_iff_mul_le hden).2 h
  rw [roundDiv]
  split <;> omega

/-- Rounding does not go above a whole number that the quotient does not exceed. -/
lemma roundDiv_le {num den t : ℕ} (hden : 0 < den) (h : num ≤ t * den) : roundDiv num den ≤ t := by
  have hnum : den * (num / den) + num % den = num := Nat.div_add_mod num den
  rw [roundDiv]
  split
  · -- something is rounded up, so that the quotient is not whole
    have hrest : 0 < num % den := by omega
    have hq : den * (num / den) < den * t := by
      rw [Nat.mul_comm den t]
      omega
    exact Nat.lt_of_mul_lt_mul_left hq
  · have hq : den * (num / den) ≤ den * t := by
      rw [Nat.mul_comm den t]
      omega
    exact Nat.le_of_mul_le_mul_left hq hden

/-! ### The exponent -/

variable {num den : ℕ}

lemma snd_scaleDown_pos (num : ℕ) (hden : 0 < den) (e : ℤ) : 0 < (scaleDown num den e).2 := by
  rw [scaleDown]
  split
  · exact Nat.mul_pos hden (Nat.two_pow_pos _)
  · exact hden

/-- Scaling divides by a power of two and changes nothing else. -/
lemma scaleDown_eq (num den : ℕ) (e : ℤ) :
    ((scaleDown num den e).1 : ℚ) / (scaleDown num den e).2 = num / den / 2 ^ e := by
  rw [scaleDown]
  split
  · rename_i h
    obtain ⟨n, hn⟩ := Int.eq_ofNat_of_zero_le h
    simp [hn, div_div]
  · rename_i h
    obtain ⟨n, he⟩ : ∃ n : ℕ, e = -(n : ℤ) := ⟨(-e).toNat, by omega⟩
    simp [he, div_eq_mul_inv, mul_right_comm]

/-- The leading bits bound a quotient from below. -/
lemma two_zpow_log2_le (hnum : num ≠ 0) (hden : 0 < den) :
    (2 : ℚ) ^ ((Nat.log2 num : ℤ) - Nat.log2 den - 1) ≤ num / den := by
  have hlow : (2 : ℚ) ^ Nat.log2 num ≤ num := by exact_mod_cast Nat.log2_self_le hnum
  have hhigh : (den : ℚ) ≤ 2 ^ (Nat.log2 den + 1) := by exact_mod_cast Nat.lt_log2_self.le
  have hsplit : (2 : ℚ) ^ ((Nat.log2 num : ℤ) - Nat.log2 den - 1) =
      2 ^ Nat.log2 num / 2 ^ (Nat.log2 den + 1) := by
    rw [show (Nat.log2 num : ℤ) - Nat.log2 den - 1 = (Nat.log2 num : ℤ) - ((Nat.log2 den + 1 : ℕ) : ℤ) by
      push_cast; ring, zpow_sub₀ two_ne_zero, zpow_natCast, zpow_natCast]
  rw [hsplit]
  exact div_le_div₀ (Nat.cast_nonneg _) hlow (Nat.cast_pos.2 hden) hhigh

lemma minExponent_le_exponentFor : minExponent ≤ exponentFor num den := by
  rw [exponentFor]
  exact le_max_left _ _

/-- Above the least exponent the quotient fills the mantissa. -/
lemma le_of_minExponent_lt_exponentFor (hnum : num ≠ 0) (hden : 0 < den)
    (h : minExponent < exponentFor num den) : 2 ^ 52 * (2 : ℚ) ^ exponentFor num den ≤ num / den := by
  have hraw := h
  simp only [exponentFor] at hraw
  rw [lt_max_iff, or_iff_right (lt_irrefl _)] at hraw
  rw [exponentFor]
  simp only [max_eq_right hraw.le]
  split
  · have hexponent : (2 : ℚ) ^ 52 * 2 ^ ((Nat.log2 num : ℤ) - Nat.log2 den - precision + 1 - 1) =
        2 ^ ((Nat.log2 num : ℤ) - Nat.log2 den - 1) := by
      rw [← zpow_natCast, ← zpow_add₀ two_ne_zero]
      congr 1
      rw [precision]
      push_cast
      ring
    rw [hexponent]
    exact two_zpow_log2_le hnum hden
  · rename_i hfull
    set e := (Nat.log2 num : ℤ) - Nat.log2 den - precision + 1
    have hpos := snd_scaleDown_pos num hden e
    have hwhole : 2 ^ 52 * (scaleDown num den e).2 ≤ (scaleDown num den e).1 :=
      (Nat.le_div_iff_mul_le hpos).1 (Nat.le_of_not_gt hfull)
    rw [← le_div_iff₀ (two_zpow_pos e), ← scaleDown_eq, le_div_iff₀ (Nat.cast_pos.2 hpos)]
    exact_mod_cast hwhole

/-! ### Rounding a quotient -/

/-- The mantissa of a quotient at an exponent, before a carry. -/
def mantissaAt (num den : ℕ) (e : ℤ) : ℕ := roundDiv (scaleDown num den e).1 (scaleDown num den e).2

lemma le_mantissaAt (hden : 0 < den) {e : ℤ} {t : ℕ} (h : t * (2 : ℚ) ^ e ≤ num / den) :
    t ≤ mantissaAt num den e := by
  have hpos := snd_scaleDown_pos num hden e
  apply le_roundDiv hpos
  rw [← le_div_iff₀ (two_zpow_pos e), ← scaleDown_eq, le_div_iff₀ (Nat.cast_pos.2 hpos)] at h
  exact_mod_cast h

lemma mantissaAt_le (hden : 0 < den) {e : ℤ} {t : ℕ} (h : (num : ℚ) / den ≤ t * 2 ^ e) :
    mantissaAt num den e ≤ t := by
  have hpos := snd_scaleDown_pos num hden e
  apply roundDiv_le hpos
  rw [← div_le_iff₀ (two_zpow_pos e), ← scaleDown_eq, div_le_iff₀ (Nat.cast_pos.2 hpos)] at h
  exact_mod_cast h

/-- A carry moves the mantissa and the exponent and keeps the value. -/
lemma exists_ofRatio?_eq (negative : Bool) (hnum : num ≠ 0) (den : ℕ) : ∃ (m : ℕ) (e : ℤ),
    m * (2 : ℚ) ^ e = mantissaAt num den (exponentFor num den) * 2 ^ exponentFor num den ∧
    e ≤ exponentFor num den + 1 ∧
    ofRatio? negative num den = if e > maxExponent then none else some ⟨negative, m, e⟩ := by
  simp only [ofRatio?, if_neg hnum]
  split
  · rename_i hcarry
    refine ⟨2 ^ 52, exponentFor num den + 1, ?_, le_refl _, rfl⟩
    have hmantissa : mantissaAt num den (exponentFor num den) = 2 ^ 53 := hcarry
    rw [hmantissa, zpow_add_one₀ two_ne_zero]
    push_cast
    ring
  · exact ⟨_, _, rfl, by omega, rfl⟩

/-- A representable value is a whole multiple of a lower power of two, and below a power of two that needs
all bits otherwise. -/
lemma IsRepresentable.cases {z : ℚ} (hz : IsRepresentable z) (e : ℤ) :
    (∃ t : ℕ, z = t * 2 ^ e) ∨ (minExponent < e ∧ z ≤ 2 ^ 52 * 2 ^ e) := by
  obtain ⟨k, j, rfl, hk, hj⟩ := hz
  rcases le_or_gt e j with h | h
  · obtain ⟨n, hn⟩ := Int.eq_ofNat_of_zero_le (Int.sub_nonneg.2 h)
    refine .inl ⟨k * 2 ^ n, ?_⟩
    obtain rfl : j = n + e := by omega
    rw [zpow_add₀ two_ne_zero, zpow_natCast]
    push_cast
    ring
  · refine .inr ⟨hj.trans_lt h, ?_⟩
    have hmantissa : (k : ℚ) ≤ 2 ^ 53 := by exact_mod_cast hk
    calc (k : ℚ) * 2 ^ j ≤ 2 ^ 53 * 2 ^ (e - 1) :=
          mul_le_mul hmantissa (zpow_le_zpow_right₀ one_le_two (by omega)) (two_zpow_pos j).le (by positivity)
      _ = 2 ^ 52 * 2 ^ e := by
          rw [zpow_sub_one₀ two_ne_zero]
          ring

/-- Rounding does not go below a representable number. -/
lemma le_mantissaAt_mul {z : ℚ} (hz : IsRepresentable z) (hnum : num ≠ 0) (hden : 0 < den)
    (h : z ≤ num / den) : z ≤ mantissaAt num den (exponentFor num den) * 2 ^ exponentFor num den := by
  rcases hz.cases (exponentFor num den) with ⟨t, rfl⟩ | ⟨hmin, hz⟩
  · exact mul_le_mul_of_nonneg_right (Nat.cast_le.2 (le_mantissaAt hden h)) (two_zpow_pos _).le
  · have hfull : 2 ^ 52 ≤ mantissaAt num den (exponentFor num den) := by
      apply le_mantissaAt hden
      exact_mod_cast le_of_minExponent_lt_exponentFor hnum hden hmin
    have hfull' : (2 : ℚ) ^ 52 ≤ mantissaAt num den (exponentFor num den) := by exact_mod_cast hfull
    exact hz.trans (mul_le_mul_of_nonneg_right hfull' (two_zpow_pos _).le)

/-- Rounding does not go above a representable number. -/
lemma mantissaAt_mul_le {z : ℚ} (hz : IsRepresentable z) (hnum : num ≠ 0) (hden : 0 < den)
    (h : num / den ≤ z) : mantissaAt num den (exponentFor num den) * 2 ^ exponentFor num den ≤ z := by
  rcases hz.cases (exponentFor num den) with ⟨t, rfl⟩ | ⟨hmin, hz⟩
  · exact mul_le_mul_of_nonneg_right (Nat.cast_le.2 (mantissaAt_le hden h)) (two_zpow_pos _).le
  · -- the quotient is the least one that fills the mantissa
    have hfull := le_of_minExponent_lt_exponentFor hnum hden hmin
    have hleast : mantissaAt num den (exponentFor num den) ≤ 2 ^ 52 := by
      apply mantissaAt_le hden
      exact_mod_cast h.trans hz
    have hleast' : (mantissaAt num den (exponentFor num den) : ℚ) ≤ 2 ^ 52 := by exact_mod_cast hleast
    exact (mul_le_mul_of_nonneg_right hleast' (two_zpow_pos _).le).trans (hfull.trans h)

/-- A result for an exact value, not negative, that lies on the same side of every representable value.
There is one if the exact value is not too large. -/
structure IsRounding (q : ℚ) (r : Option Binary64) : Prop where
  negative : ∀ x, r = some x → x.negative = false
  lower : ∀ x z, r = some x → IsRepresentable z → z ≤ q → z ≤ x.value
  upper : ∀ z, IsRepresentable z → z < 2 ^ 1023 → q ≤ z → ∃ x, r = some x ∧ x.value ≤ z

lemma value_of_not_negative {x : Binary64} (h : x.negative = false) : x.value = x.mantissa * 2 ^ x.exponent := by
  rw [value, h]
  simp

/-- The exponent of a quotient that is not too large. -/
lemma exponentFor_lt_maxExponent {z : ℚ} (hnum : num ≠ 0) (hden : 0 < den) (hz : z < 2 ^ 1023)
    (h : num / den ≤ z) : exponentFor num den < maxExponent := by
  rcases minExponent_le_exponentFor.eq_or_lt (b := exponentFor num den) with hmin | hmin
  · rw [← hmin]
    decide
  · have hfull := le_of_minExponent_lt_exponentFor hnum hden hmin
    have hlt : (2 : ℚ) ^ (52 + exponentFor num den) < 2 ^ (1023 : ℤ) := by
      rw [zpow_add₀ two_ne_zero]
      exact_mod_cast (hfull.trans h).trans_lt hz
    have hexponent := (zpow_lt_zpow_iff_right₀ one_lt_two).1 hlt
    rw [maxExponent]
    omega

/-- The quotient of two whole numbers is rounded to a representable neighbour. -/
lemma isRounding_ofRatio? (num : ℕ) (hden : 0 < den) : IsRounding (num / den) (ofRatio? false num den) := by
  by_cases hnum : num = 0
  · have hzero : (zero false).value = 0 := by simp [value, zero]
    rw [hnum, ofRatio?, if_pos rfl, Nat.cast_zero, zero_div]
    refine ⟨?_, ?_, fun z _ _ h => ⟨_, rfl, hzero.trans_le h⟩⟩
    · rintro x hx
      cases hx
      rfl
    · rintro x z hx - hz
      cases hx
      rwa [hzero]
  · obtain ⟨m, e, hvalue, hexponent, heq⟩ := exists_ofRatio?_eq false hnum den
    rw [heq]
    refine ⟨?_, ?_, ?_⟩
    · intro x hx
      split at hx <;> cases hx
      rfl
    · intro x z hx hz hle
      split at hx <;> cases hx
      rw [value_of_not_negative rfl, hvalue]
      exact le_mantissaAt_mul hz hnum hden hle
    · intro z hz hlarge hle
      have hbound := exponentFor_lt_maxExponent hnum hden hlarge hle
      rw [if_neg (by omega)]
      refine ⟨_, rfl, ?_⟩
      rw [value_of_not_negative rfl, hvalue]
      exact mantissaAt_mul_le hz hnum hden hle

lemma natCast_lt_of_le {n : ℕ} (h : n ≤ 2 ^ precision) : (n : ℚ) < 2 ^ 1023 := by
  have hn : (n : ℚ) ≤ 2 ^ 53 := by exact_mod_cast h
  exact hn.trans_lt (pow_lt_pow_right₀ one_lt_two (by decide))

/-- A whole number of at most 53 bits is its own rounding. -/
lemma exists_ofRatio?_one {n : ℕ} (h : n ≤ 2 ^ precision) :
    ∃ x, ofRatio? false n 1 = some x ∧ x.negative = false ∧ x.value = n := by
  have hround := isRounding_ofRatio? n one_pos
  rw [Nat.cast_one, div_one] at hround
  obtain ⟨x, hx, hle⟩ := hround.upper n (isRepresentable_natCast h) (natCast_lt_of_le h) le_rfl
  exact ⟨x, hx, hround.negative x hx, le_antisymm hle (hround.lower x n hx (isRepresentable_natCast h) le_rfl)⟩

/-! ### Arithmetic -/

variable {x y : Binary64}

/-- A sum is rounded to a representable neighbour. -/
lemma isRounding_add? (hx : x.negative = false) (hy : y.negative = false) :
    IsRounding (x.value + y.value) (x.add? y) := by
  have hxpos := x.snd_ratio_pos
  have hypos := y.snd_ratio_pos
  have heq : x.add? y = ofRatio? false (x.ratio.1 * y.ratio.2 + y.ratio.1 * x.ratio.2)
      (x.ratio.2 * y.ratio.2) := by
    have hsum : x.signedRatio.1 * y.signedRatio.2 + y.signedRatio.1 * x.signedRatio.2 =
        ((x.ratio.1 * y.ratio.2 + y.ratio.1 * x.ratio.2 : ℕ) : ℤ) := by
      simp [signedRatio, hx, hy]
    simp only [add?, hsum, hx, hy, Int.natAbs_natCast]
    rfl
  have hvalue : x.value + y.value =
      ((x.ratio.1 * y.ratio.2 + y.ratio.1 * x.ratio.2 : ℕ) : ℚ) / ((x.ratio.2 * y.ratio.2 : ℕ) : ℚ) := by
    rw [value_of_not_negative hx, value_of_not_negative hy, ← ratio_eq, ← ratio_eq,
      div_add_div _ _ (Nat.cast_ne_zero.2 hxpos.ne') (Nat.cast_ne_zero.2 hypos.ne')]
    push_cast
    ring
  rw [heq, hvalue]
  exact isRounding_ofRatio? _ (Nat.mul_pos hxpos hypos)

/-- A quotient is rounded to a representable neighbour. -/
lemma isRounding_div? (hx : x.negative = false) (hy : y.negative = false) (hne : y.value ≠ 0) :
    IsRounding (x.value / y.value) (x.div? y) := by
  have hmantissa : y.mantissa ≠ 0 := by
    intro hzero
    rw [value_of_not_negative hy, hzero, Nat.cast_zero, zero_mul] at hne
    exact hne rfl
  have hnum : y.ratio.1 ≠ 0 := by
    intro hzero
    rw [value_of_not_negative hy, ← ratio_eq, hzero, Nat.cast_zero, zero_div] at hne
    exact hne rfl
  have heq : x.div? y = ofRatio? false (x.ratio.1 * y.ratio.2) (x.ratio.2 * y.ratio.1) := by
    rw [div?, if_neg (by simpa [isZero] using hmantissa), hx, hy]
    rfl
  have hvalue : x.value / y.value =
      ((x.ratio.1 * y.ratio.2 : ℕ) : ℚ) / ((x.ratio.2 * y.ratio.1 : ℕ) : ℚ) := by
    rw [value_of_not_negative hx, value_of_not_negative hy, ← ratio_eq, ← ratio_eq, div_div_div_eq]
    push_cast
    rfl
  rw [heq, hvalue]
  exact isRounding_ofRatio? _ (Nat.mul_pos x.snd_ratio_pos (Nat.pos_of_ne_zero hnum))

end Binary64

end Flotilla
