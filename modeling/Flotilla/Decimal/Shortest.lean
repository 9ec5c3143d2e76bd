import Flotilla.Decimal.Binary64

/-!
# Shortest decimal digits

The fewest decimal digits that are read back as a given number, and of these the ones nearest to it.
Grids of decimal numbers are tried from the coarsest to the finest; the first grid with a point in
the interval of reals that round to the number wins.
-/

namespace Flotilla.Decimal

/-- The number `digits * 10 ^ power`. -/
structure Digits where
  digits : Nat
  power : Int
  deriving DecidableEq, Inhabited, Repr

/-- The reals that round to `m * 2 ^ e`, in units of a quarter of `2 ^ e`; the lower half is narrower
where the mantissa is the least of its size. -/
structure Interval where
  low : Nat
  middle : Nat
  high : Nat
  /-- The ends belong to the interval. -/
  closed : Bool

def Interval.of (x : Binary64) : Interval :=
  let narrow := x.mantissa = Nat.pow 2 (Binary64.precision - 1) ∧ x.exponent > Binary64.minExponent
  ⟨4 * x.mantissa - (if narrow then 1 else 2), 4 * x.mantissa, 4 * x.mantissa + 2,
    x.mantissa % 2 = 0⟩

/-- Whether a point lies in an interval whose ends are scaled by `scale`. -/
def Interval.holds (i : Interval) (scale point : Nat) : Bool :=
  if i.closed then i.low * scale ≤ point ∧ point ≤ i.high * scale
  else i.low * scale < point ∧ point < i.high * scale

/-- The multiple of the grid step that lies in the interval, the nearer one if both neighbours do. -/
def Interval.onGrid? (i : Interval) (scale step : Nat) : Option Nat :=
  let q := i.middle * scale / step
  let below := q * step
  let above := below + step
  match i.holds scale below, i.holds scale above with
  | true, true =>
    let toBelow := i.middle * scale - below
    let toAbove := above - i.middle * scale
    if toBelow < toAbove ∨ (toBelow = toAbove ∧ q % 2 = 0) then some q else some (q + 1)
  | true, false => some q
  | false, true => some (q + 1)
  | false, false => none

/-- Tries grids `10 ^ power`, `10 ^ (power - 1)`, and so on. -/
def search (i : Interval) (exponent : Int) : Nat → Int → Digits
  | 0, power => ⟨0, power⟩
  | fuel + 1, power =>
    -- a quarter of `2 ^ exponent` is `scale` units and a grid step is `step` units
    let (s1, t1) := if power ≥ 0 then (1, Nat.pow 10 power.toNat) else (Nat.pow 10 (-power).toNat, 1)
    let quarter := exponent - 2
    let (s2, t2) := if quarter ≥ 0 then (Nat.pow 2 quarter.toNat, 1) else (1, Nat.pow 2 (-quarter).toNat)
    match i.onGrid? (s1 * s2) (t1 * t2) with
    | some n => ⟨n, power⟩
    | none => search i exponent fuel (power - 1)

/-- Moves trailing zeros from the digits into the power. -/
def trim : Nat → Digits → Digits
  | 0, d => d
  | fuel + 1, d =>
    if d.digits ≠ 0 ∧ d.digits % 10 = 0 then trim fuel ⟨d.digits / 10, d.power + 1⟩ else d

/-- A power of ten above the number. -/
def startPower (x : Binary64) : Int :=
  let top : Int := Nat.log2 x.mantissa + 1 + x.exponent
  if top ≥ 0 then (top.toNat * 30103 / 100000 : Nat) + 1
  else 1 - (((-top).toNat * 30102 / 100000 : Nat) : Int)

/-- The shortest digits of the absolute value. -/
def shortest (x : Binary64) : Digits :=
  if x.isZero then ⟨0, 0⟩
  else trim 20 (search (.of x) x.exponent 40 (startPower x))

def Digits.text (d : Digits) : List Char := Nat.toDigits 10 d.digits

end Flotilla.Decimal
