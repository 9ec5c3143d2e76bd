import Flotilla.Bytes

/-!
# Percent encoding
-/

namespace Flotilla.Endpoint

/-- A byte as a percent sign and two upper-case hexadecimal digits. -/
def percentByte (b : UInt8) : List Char :=
  let hex (n : Nat) : Char := (Text.hexDigit n).toUpper
  ['%', hex (b.toNat / 16), hex (b.toNat % 16)]

/-- Characters of a set, control characters and characters beyond ASCII are encoded. -/
def percentEncode (set : List Char) (cs : List Char) : List Char :=
  cs.flatMap fun c =>
    if c.toNat < 0x20 ∨ c.toNat ≥ 0x7f ∨ c ∈ set then
      (Bytes.ofText (String.singleton c)).flatMap percentByte
    else [c]

/-- Replaces percent signs with two hexadecimal digits by the byte they write. -/
def percentDecode : Bytes → Bytes
  | 0x25 :: a :: b :: rest =>
    match Text.hexValue? (Char.ofNat a.toNat), Text.hexValue? (Char.ofNat b.toNat) with
    | some x, some y => UInt8.ofNat (16 * x + y) :: percentDecode rest
    | _, _ => 0x25 :: percentDecode (a :: b :: rest)
  | c :: rest => c :: percentDecode rest
  | [] => []

def fragmentSet : List Char := [' ', '"', '<', '>', '\x60']

def querySet : List Char := [' ', '"', '#', '<', '>', '\'']

def pathSet : List Char := fragmentSet ++ ['#', '?', '\x7b', '\x7d']

/-- What is encoded in a user name or password. -/
def userSet : List Char := pathSet ++ ['/', ':', ';', '=', '@', '[', '\\', ']', '^', '|']

end Flotilla.Endpoint
