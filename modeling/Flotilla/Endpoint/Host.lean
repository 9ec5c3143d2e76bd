import Flotilla.DomainName.Basic
import Flotilla.Endpoint.Percent

/-!
# Hosts

A host is a domain name or a numeric address.  A name whose last label is a number is an address of
version 4, and one in brackets an address of version 6.
-/

namespace Flotilla

inductive EndpointError where
  | emptyHost
  | invalidDomain
  | invalidPort
  | invalidIpv4
  | invalidIpv6
  deriving DecidableEq, Repr

def EndpointError.message : EndpointError → String
  | .emptyHost => "empty host"
  | .invalidDomain => "invalid international domain name"
  | .invalidPort => "invalid port number"
  | .invalidIpv4 => "invalid IPv4 address"
  | .invalidIpv6 => "invalid IPv6 address"

namespace Endpoint

open Text (splitAt join)

/-! ### Addresses of version 4 -/

/-- A number in decimal, or in octal after a zero, or in hexadecimal after a zero and the letter x. -/
def ipv4Number? (part : List Char) : Option Nat :=
  let read (base : Nat) (ds : List Char) : Option Nat :=
    if ds.all fun c => (Text.hexValue? c).any (· < base) then
      some (ds.foldl (fun n c => base * n + (Text.hexValue? c).getD 0) 0)
    else none
  match part with
  | [] => none
  | '0' :: 'x' :: ds | '0' :: 'X' :: ds => read 16 ds
  | '0' :: d :: ds => read 8 (d :: ds)
  | ds => read 10 ds

/-- The labels of a name, without an empty one at the end. -/
def labels (name : List Char) : List (List Char) :=
  let parts := splitAt '.' name
  if parts.length > 1 && parts.getLast? == some [] then parts.dropLast else parts

/-- Whether the last label of a name is a number. -/
def endsInNumber (name : List Char) : Bool :=
  match (labels name).getLast? with
  | none | some [] => false
  | some last => last.all (·.isDigit) || (ipv4Number? last).isSome

/-- The address that numbers separated by dots write; the last one fills the bytes that are left. -/
def ipv4? (name : List Char) : Option Nat := do
  let numbers ← (labels name).mapM ipv4Number?
  if numbers.length > 4 then none
  let last ← numbers.getLast?
  let others := numbers.dropLast
  if others.any (· > 255) || last ≥ Nat.pow 256 (4 - others.length) then none
  return others.zipIdx.foldl (fun n p => n + p.1 * Nat.pow 256 (3 - p.2)) last

def ipv4Text (n : Nat) : List Char :=
  join '.' ([n / 16777216, n / 65536 % 256, n / 256 % 256, n % 256].map (Nat.toDigits 10))

/-! ### Addresses of version 6 -/

/-- A byte in decimal digits without leading zeros. -/
def decimalByte? (ds : List Char) : Option Nat :=
  let n := ds.foldl (fun n c => 10 * n + (c.toNat - 48)) 0
  let leading := ds.length > 1 && ds.head? == some '0'
  if ds.isEmpty || ds.length > 3 || !ds.all (·.isDigit) || leading || n > 255 then none else some n

/-- The pieces of one side of an address: numbers of up to four hexadecimal digits, and at the end
perhaps an address of version 4. -/
def ipv6Pieces? (withIpv4 : Bool) : List (List Char) → Option (List Nat)
  | [] => some []
  | [part] =>
    if part.contains '.' then
      if withIpv4 then
        match (splitAt '.' part).mapM decimalByte? with
        | some [a, b, c, d] => some [256 * a + b, 256 * c + d]
        | _ => none
      else none
    else if part.isEmpty || part.length > 4 then none
    else (Text.hexNumber? part).map ([·])
  | part :: parts =>
    if part.isEmpty || part.length > 4 then none
    else do return (← Text.hexNumber? part) :: (← ipv6Pieces? withIpv4 parts)

def splitDouble : List Char → List Char × Option (List Char)
  | ':' :: ':' :: rest => ([], some rest)
  | c :: rest =>
    let (before, after) := splitDouble rest
    (c :: before, after)
  | [] => ([], none)

/-- The pieces on one side of a double colon, of which there may be none. -/
def sidePieces? (withIpv4 : Bool) (side : List Char) : Option (List Nat) :=
  if side.isEmpty then some [] else ipv6Pieces? withIpv4 (splitAt ':' side)

/-- The eight pieces of an address; a double colon stands for one or more pieces that are zero. -/
def ipv6? (text : List Char) : Option (List Nat) := do
  match splitDouble text with
  | (all, none) =>
    let pieces ← ipv6Pieces? true (splitAt ':' all)
    if pieces.length = 8 then some pieces else none
  | (before, some after) =>
    let front ← sidePieces? false before
    let back ← sidePieces? true after
    if front.length + back.length ≤ 7 then
      some (front ++ List.replicate (8 - front.length - back.length) 0 ++ back)
    else none

/-- The start and the length of the first of the longest runs of zeros. -/
def longestZeros (pieces : List Nat) : Nat × Nat :=
  (List.range pieces.length).foldl (fun best i =>
    let run := ((pieces.drop i).takeWhile (· = 0)).length
    if run > best.2 then (i, run) else best) (0, 0)

/-- The pieces in hexadecimal, with a double colon for the longest run of two or more zeros. -/
def ipv6Text (pieces : List Nat) : List Char :=
  let hex (ps : List Nat) : List Char := join ':' (ps.map (Nat.toDigits 16))
  let (start, run) := longestZeros pieces
  let inner :=
    if run < 2 then hex pieces
    else hex (pieces.take start) ++ [':', ':'] ++ hex (pieces.drop (start + run))
  '[' :: inner ++ [']']

/-! ### Hosts -/

/-- The normal form of a host. -/
def normalHost (text : List Char) : Except EndpointError (List Char) :=
  match text with
  | '[' :: rest =>
    if rest.getLast? = some ']' then
      match ipv6? rest.dropLast with
      | some pieces => .ok (ipv6Text pieces)
      | none => .error .invalidIpv6
    else .error .invalidIpv6
  | text =>
    match (Bytes.toText? (percentDecode (Bytes.ofText (String.ofList text)))).bind
        fun s => DomainName.toAscii? s.toList with
    | none => .error .invalidDomain
    | some [] => .error .emptyHost
    | some name =>
      if endsInNumber name then
        match ipv4? name with
        | some n => .ok (ipv4Text n)
        | none => .error .invalidIpv4
      else .ok name

end Endpoint

end Flotilla
