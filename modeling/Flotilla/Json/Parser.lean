import Flotilla.Json.Basic
import Flotilla.Text.Hex

/-!
# Reading JSON text

The whole text has to be one value, with blanks allowed between its parts.  Lists and objects may be
nested up to a limit.  A number that is no whole number of 64 bits is read as a floating-point
number; one that is too large for that is refused.
-/

namespace Flotilla.Json

/-- How deep lists and objects may be nested. -/
def nestingLimit : Nat := 127

/-- Blanks are the space, the tabulator, the line feed and the carriage return. -/
def isBlank (c : Char) : Bool := c == ' ' || c == '\n' || c == '\t' || c == '\r'

def skipBlanks (cs : List Char) : List Char := cs.dropWhile isBlank

/-! ### Texts -/

def shortEscape? : Char → Option Char
  | '"' => some '"'
  | '\\' => some '\\'
  | '/' => some '/'
  | 'b' => some '\x08'
  | 'f' => some '\x0c'
  | 'n' => some '\n'
  | 'r' => some '\r'
  | 't' => some '\t'
  | _ => none

/-- The high half of a pair of units that stand for one character. -/
def isHighHalf (n : Nat) : Bool := 0xD800 ≤ n && n ≤ 0xDBFF

/-- The low half of a pair of units that stand for one character. -/
def isLowHalf (n : Nat) : Bool := 0xDC00 ≤ n && n ≤ 0xDFFF

/-- The character that a pair of halves stands for. -/
def joinHalves (high low : Nat) : Char :=
  Char.ofNat (0x10000 + (high - 0xD800) * 0x400 + (low - 0xDC00))

/-- The characters of a text up to its closing quotation mark, and what follows.  A control character
has to be escaped, and a half of a pair may not stand alone. -/
def textBody : List Char → Option (List Char × List Char)
  | [] => none
  | '"' :: rest => some ([], rest)
  | '\\' :: 'u' :: a :: b :: c :: d :: rest =>
    match Text.hexNumber? [a, b, c, d] with
    | none => none
    | some n =>
      if isLowHalf n then none
      else if isHighHalf n then
        match rest with
        | '\\' :: 'u' :: a' :: b' :: c' :: d' :: rest' =>
          match Text.hexNumber? [a', b', c', d'] with
          | none => none
          | some n' =>
            if isLowHalf n' then (textBody rest').map fun p => (joinHalves n n' :: p.1, p.2)
            else none
        | _ => none
      else (textBody rest).map fun p => (Char.ofNat n :: p.1, p.2)
  | '\\' :: c :: rest =>
    match shortEscape? c with
    | none => none
    | some x => (textBody rest).map fun p => (x :: p.1, p.2)
  | c :: rest =>
    if c.toNat < 0x20 ∨ c = '\\' then none else (textBody rest).map fun p => (c :: p.1, p.2)

/-! ### Numbers -/

/-- The leading decimal digits and what follows them. -/
def spanDigits (cs : List Char) : List Char × List Char := cs.span (·.isDigit)

def digitsValue (ds : List Char) : Nat := ds.foldl (fun n c => 10 * n + (c.toNat - 48)) 0

def maxSignificand : Nat := Word.size64 - 1

/-- Reads digits onto a significand while it stays in range; gives the significand and how many digits
were left out. -/
def accumulate : Nat → List Char → Nat × Nat
  | n, [] => (n, 0)
  | n, c :: cs =>
    let n' := 10 * n + (c.toNat - 48)
    if n' > maxSignificand then (n, cs.length + 1) else accumulate n' cs

/-- `significand * 10 ^ power` in two roundings: the significand to a floating-point number, then its
product with or quotient by the power. -/
def scaleByPower (negative : Bool) (significand : Nat) (power : Int) : Option Binary64 := do
  let x ← Binary64.ofRatio? negative significand 1
  if x.isZero then return x
  let ten (n : Nat) : Option Binary64 := Binary64.ofRatio? false (Nat.pow 10 n) 1
  if power > 308 then none
  else if power ≥ 0 then x.mul? (← ten power.toNat)
  else if power ≥ -308 then x.div? (← ten (-power).toNat)
  else if power ≥ -616 then
    (← x.div? (← ten 308)).div? (← ten (-(power + 308)).toNat)
  else return Binary64.zero negative

/-- The exponents that are told apart; those beyond count as the nearest of them. -/
def clampExponent (e : Int) : Int := max (-2147483648) (min 2147483647 e)

/-- A number without an exponent: `whole` says that it has no fraction and lost no digit. -/
def withoutExponent (negative whole : Bool) (n : Nat) (power : Int) : Option Json :=
  if !whole then (scaleByPower negative n power).map .float
  else if !negative then some (.int n)
  else if n = 0 ∨ (n : Int) > Word.maxSigned + 1 then (Binary64.ofRatio? true n 1).map .float
  else some (.int (-n))

/-- A number with an exponent of this sign and these digits. -/
def withExponent (negative : Bool) (n : Nat) (power : Int) (down : Bool) (exponent : Nat) :
    Option Json :=
  if exponent ≥ 2147483648 then if n ≠ 0 ∧ !down then none else some (.float (.zero negative))
  else
    let total := if down then power - exponent else power + exponent
    (scaleByPower negative n (clampExponent total)).map .float

/-- The number with this sign and significand, and the characters after them, which may be its exponent. -/
def numberEnd (negative whole : Bool) (n : Nat) (power : Int) : List Char → Option (Json × List Char)
  | [] => (withoutExponent negative whole n power).map (·, [])
  | e :: rest =>
    if e = 'e' ∨ e = 'E' then
      let (down, rest) := match rest with
        | '-' :: r => (true, r)
        | '+' :: r => (false, r)
        | r => (false, r)
      let (ds, rest) := spanDigits rest
      if ds.isEmpty then none
      else (withExponent negative n power down (digitsValue ds)).map (·, rest)
    else (withoutExponent negative whole n power).map (·, e :: rest)

/-- The number with this sign, these whole digits, and the characters after them.  Digits after those
that fill the significand only count by their place. -/
def numberTail (negative : Bool) (whole : List Char) (cs : List Char) :
    Option (Json × List Char) :=
  let (n, dropped) := accumulate 0 whole
  match cs with
  | '.' :: rest =>
    let (ds, rest) := spanDigits rest
    let (n', left) := accumulate n ds
    if ds.isEmpty then none
    else numberEnd negative false n' ((dropped : Int) - (ds.length - left : Nat)) rest
  | rest => numberEnd negative (dropped == 0) n dropped rest

/-- A number: its whole part is a single zero or starts with another digit. -/
def number (cs : List Char) : Option (Json × List Char) :=
  let (negative, cs) := match cs with
    | '-' :: r => (true, r)
    | r => (false, r)
  match spanDigits cs with
  | ([], _) => none
  | ('0' :: _ :: _, _) => none
  | (whole, rest) => numberTail negative whole rest

/-! ### Values -/

mutual

/-- Reads one value; `depth` says how much deeper lists and objects may be nested. -/
def value : Nat → Nat → List Char → Option (Json × List Char)
  | 0, _, _ => none
  | fuel + 1, depth, cs =>
    match skipBlanks cs with
    | 'n' :: 'u' :: 'l' :: 'l' :: rest => some (.null, rest)
    | 't' :: 'r' :: 'u' :: 'e' :: rest => some (.bool true, rest)
    | 'f' :: 'a' :: 'l' :: 's' :: 'e' :: rest => some (.bool false, rest)
    | '"' :: rest => (textBody rest).map fun p => (.text (String.ofList p.1), p.2)
    | '[' :: rest =>
      match depth with
      | 0 => none
      | depth + 1 =>
        match skipBlanks rest with
        | ']' :: rest' => some (.list [], rest')
        | rest' => (items fuel depth rest').map fun p => (.list p.1, p.2)
    | '\x7b' :: rest =>
      match depth with
      | 0 => none
      | depth + 1 =>
        match skipBlanks rest with
        | '\x7d' :: rest' => some (.object [], rest')
        | rest' => (fields fuel depth rest').map fun p => (ofFields p.1, p.2)
    | rest => number rest

/-- Reads the items of a list and its closing bracket. -/
def items : Nat → Nat → List Char → Option (List Json × List Char)
  | 0, _, _ => none
  | fuel + 1, depth, cs =>
    match value fuel depth cs with
    | none => none
    | some (x, rest) =>
      match skipBlanks rest with
      | ']' :: rest' => some ([x], rest')
      | ',' :: rest' => (items fuel depth rest').map fun p => (x :: p.1, p.2)
      | _ => none

/-- Reads the fields of an object and its closing brace. -/
def fields : Nat → Nat → List Char → Option (List (String × Json) × List Char)
  | 0, _, _ => none
  | fuel + 1, depth, cs =>
    match skipBlanks cs with
    | '"' :: rest =>
      match textBody rest with
      | none => none
      | some (name, rest) =>
        match skipBlanks rest with
        | ':' :: rest =>
          match value fuel depth rest with
          | none => none
          | some (v, rest) =>
            match skipBlanks rest with
            | '\x7d' :: rest' => some ([(String.ofList name, v)], rest')
            | ',' :: rest' =>
              (fields fuel depth rest').map fun p => ((String.ofList name, v) :: p.1, p.2)
            | _ => none
        | _ => none
    | _ => none

end

/-- The value that the whole text writes, with lists and objects nested at most `depth` deep. -/
def parseNested? (depth : Nat) (s : String) : Option Json :=
  let cs := s.toList
  match value (cs.length + 1) depth cs with
  | some (v, rest) => if (skipBlanks rest).isEmpty then some v else none
  | none => none

/-- The value that the whole text writes. -/
def parse? (s : String) : Option Json := parseNested? nestingLimit s

end Flotilla.Json
