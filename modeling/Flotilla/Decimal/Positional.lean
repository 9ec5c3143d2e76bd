import Flotilla.Decimal.Shortest

/-!
# Positional text

The shortest digits of a number, written without an exponent, and the texts of the values that are no
numbers.
-/

namespace Flotilla

/-- A floating-point number, an infinity, or no number. -/
inductive Extended where
  | finite (x : Binary64)
  | infinite (negative : Bool)
  | nan
  deriving DecidableEq, Inhabited, Repr

namespace Decimal

/-- The digits of the absolute value with a point where it belongs. -/
def positionalDigits (x : Binary64) : List Char :=
  let d := shortest x
  let ds := d.text
  if d.power ≥ 0 then ds ++ List.replicate d.power.toNat '0'
  else
    let places := (-d.power).toNat
    let filled := List.replicate (places + 1 - ds.length) '0' ++ ds
    filled.take (filled.length - places) ++ '.' :: filled.drop (filled.length - places)

/-- A number without an exponent; a whole number has no point. -/
def positional (x : Binary64) : List Char :=
  if x.negative then '-' :: positionalDigits x else positionalDigits x

end Decimal

def Extended.text : Extended → String
  | .finite x => String.ofList (Decimal.positional x)
  | .infinite false => "inf"
  | .infinite true => "-inf"
  | .nan => "NaN"

end Flotilla
