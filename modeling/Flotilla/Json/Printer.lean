import Flotilla.Json.Basic
import Flotilla.Decimal.Shortest
import Flotilla.Text.Hex

/-!
# JSON text

Values are written without blanks.  In texts the quotation mark, the backslash and the control
characters below U+0020 are escaped; all else stands for itself.
-/

namespace Flotilla.Json

/-! ### Numbers -/

/-- The decimal digits of a whole number, after a minus sign if it is negative. -/
def printInt (n : Int) : List Char :=
  if n < 0 then '-' :: Nat.toDigits 10 n.natAbs else Nat.toDigits 10 n.natAbs

/-- Shortest digits, positional while the point lies within sixteen digits or five leading zeros,
with at least one digit on either side of the point, and else with an exponent, which has a sign. -/
def printFloat (x : Binary64) : List Char :=
  let d := Decimal.shortest x
  let ds := d.text
  let n : Int := ds.length
  let point := n + d.power
  let magnitude :=
    if x.isZero then ['0', '.', '0']
    else if 0 ≤ d.power ∧ point ≤ 16 then ds ++ List.replicate d.power.toNat '0' ++ ['.', '0']
    else if 0 < point ∧ point ≤ 16 then ds.take point.toNat ++ '.' :: ds.drop point.toNat
    else if -5 < point ∧ point ≤ 0 then
      '0' :: '.' :: List.replicate (-point).toNat '0' ++ ds
    else
      let mantissa := match ds with
        | c :: c' :: rest => c :: '.' :: c' :: rest
        | short => short
      let exponent := printInt (point - 1)
      mantissa ++ 'e' :: (if point ≤ 0 then exponent else '+' :: exponent)
  if x.negative then '-' :: magnitude else magnitude

/-! ### Texts -/

def escape (c : Char) : List Char :=
  if c = '"' then ['\\', '"']
  else if c = '\\' then ['\\', '\\']
  else if c = '\x08' then ['\\', 'b']
  else if c = '\t' then ['\\', 't']
  else if c = '\n' then ['\\', 'n']
  else if c = '\x0c' then ['\\', 'f']
  else if c = '\r' then ['\\', 'r']
  else if c.toNat < 0x20 then
    ['\\', 'u', '0', '0', Text.hexDigit (c.toNat / 16), Text.hexDigit (c.toNat % 16)]
  else [c]

def printText (s : String) : List Char := '"' :: s.toList.flatMap escape ++ ['"']

/-! ### Values -/

mutual

def print : Json → List Char
  | .null => ['n', 'u', 'l', 'l']
  | .bool true => ['t', 'r', 'u', 'e']
  | .bool false => ['f', 'a', 'l', 's', 'e']
  | .int n => printInt n
  | .float x => printFloat x
  | .text s => printText s
  | .list [] => ['[', ']']
  | .list (x :: xs) => '[' :: print x ++ printItems xs
  | .object [] => ['\x7b', '\x7d']
  | .object (f :: fs) => '\x7b' :: printField f ++ printFields fs

/-- The items after the first one, and the closing bracket. -/
def printItems : List Json → List Char
  | [] => [']']
  | x :: xs => ',' :: print x ++ printItems xs

/-- The fields after the first one, and the closing brace. -/
def printFields : List (String × Json) → List Char
  | [] => ['\x7d']
  | f :: fs => ',' :: printField f ++ printFields fs

def printField : String × Json → List Char
  | (k, v) => printText k ++ ':' :: print v

end

def render (v : Json) : String := String.ofList v.print

end Flotilla.Json
