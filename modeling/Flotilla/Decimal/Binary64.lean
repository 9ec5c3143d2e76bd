/-!
# Binary floating-point numbers of 64 bits

A finite number is a sign, a whole mantissa below 2 ^ 53 and a power of two.  Every result is the
exact rational value rounded to the nearest such number, the even mantissa on a tie, so all
arithmetic here is on natural numbers.
-/

namespace Flotilla

/-- The finite number `mantissa * 2 ^ exponent`, negated if `negative`.  The mantissa fills 53 bits
unless the exponent is the least one. -/
structure Binary64 where
  negative : Bool
  mantissa : Nat
  exponent : Int
  deriving DecidableEq, Inhabited, Repr

namespace Binary64

/-- The bits of a full mantissa. -/
def precision : Nat := 53

/-- The exponent of the numbers closest to zero. -/
def minExponent : Int := -1074

/-- The exponent of the largest numbers. -/
def maxExponent : Int := 971

def zero (negative : Bool) : Binary64 := ⟨negative, 0, minExponent⟩

def isZero (x : Binary64) : Bool := x.mantissa == 0

/-- The quotient rounded to the nearest whole number, to the even one on a tie. -/
def roundDiv (num den : Nat) : Nat :=
  let q := num / den
  let twice := 2 * (num % den)
  if twice > den ∨ (twice = den ∧ q % 2 = 1) then q + 1 else q

/-- `num / den` divided by `2 ^ e`, as numerator and denominator. -/
def scaleDown (num den : Nat) (e : Int) : Nat × Nat :=
  if e ≥ 0 then (num, den * Nat.pow 2 e.toNat) else (num * Nat.pow 2 (-e).toNat, den)

/-- The exponent at which the whole part of `num / den` fills the mantissa; never below the least. -/
def exponentFor (num den : Nat) : Int :=
  let guess : Int := (Nat.log2 num : Int) - Nat.log2 den - precision + 1
  let (n, d) := scaleDown num den guess
  max minExponent (if n / d < Nat.pow 2 (precision - 1) then guess - 1 else guess)

/-- The number nearest to `num / den`, unless it lies beyond the largest finite one. -/
def ofRatio? (negative : Bool) (num den : Nat) : Option Binary64 :=
  if num = 0 then some (zero negative)
  else
    let e := exponentFor num den
    let (n, d) := scaleDown num den e
    let m := roundDiv n d
    let (m, e) := if m = Nat.pow 2 precision then (Nat.pow 2 (precision - 1), e + 1) else (m, e)
    if e > maxExponent then none else some ⟨negative, m, e⟩

/-- The absolute value as numerator and denominator. -/
def ratio (x : Binary64) : Nat × Nat :=
  if x.exponent ≥ 0 then (x.mantissa * Nat.pow 2 x.exponent.toNat, 1)
  else (x.mantissa, Nat.pow 2 (-x.exponent).toNat)

/-- The number nearest to `digits * 10 ^ power`, unless it lies beyond the largest finite one.  Powers
that lead far out of range are answered without computing them. -/
def ofDecimal? (negative : Bool) (digits : Nat) (power : Int) : Option Binary64 :=
  let magnitude := power + (Nat.toDigits 10 digits).length
  if digits = 0 ∨ magnitude < -400 then some (zero negative)
  else if magnitude > 400 then none
  else if power ≥ 0 then ofRatio? negative (digits * Nat.pow 10 power.toNat) 1
  else ofRatio? negative digits (Nat.pow 10 (-power).toNat)

/-- The value as numerator and denominator. -/
def signedRatio (x : Binary64) : Int × Nat :=
  (if x.negative then -(x.ratio.1 : Int) else x.ratio.1, x.ratio.2)

instance : LT Binary64 where
  lt x y := x.signedRatio.1 * y.signedRatio.2 < y.signedRatio.1 * x.signedRatio.2

instance (x y : Binary64) : Decidable (x < y) := inferInstanceAs (Decidable ((_ : Int) < _))

/-- The sum rounded to the nearest number. -/
def add? (x y : Binary64) : Option Binary64 :=
  let sum := x.signedRatio.1 * y.signedRatio.2 + y.signedRatio.1 * x.signedRatio.2
  ofRatio? (sum < 0 || x.negative && y.negative) sum.natAbs (x.signedRatio.2 * y.signedRatio.2)

/-- The product rounded to the nearest number. -/
def mul? (x y : Binary64) : Option Binary64 :=
  ofRatio? (x.negative != y.negative) (x.ratio.1 * y.ratio.1) (x.ratio.2 * y.ratio.2)

/-- The quotient rounded to the nearest number. -/
def div? (x y : Binary64) : Option Binary64 :=
  if y.isZero then none
  else ofRatio? (x.negative != y.negative) (x.ratio.1 * y.ratio.2) (x.ratio.2 * y.ratio.1)

end Binary64

end Flotilla
