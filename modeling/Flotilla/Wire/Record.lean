import Flotilla.Wire.Varint

/-!
# Records

A message is a sequence of records.  Each has a field number and a payload of one of a few shapes,
which tell how long the record is, so that a reader can skip the numbers it does not know.
-/

namespace Flotilla.Wire

/-- What a record carries.  The contents of a group are not kept: no message uses one. -/
inductive Payload where
  | varint (n : Nat)
  | fixed64
  | bytes (b : Bytes)
  | group
  | fixed32
  deriving DecidableEq

/-- A field number and what was written under it. -/
structure Record where
  number : Nat
  payload : Payload
  deriving DecidableEq

namespace Record

/-! ### Writing -/

/-- The key of a record: its number and the code of its shape. -/
def key (number shape : Nat) : Bytes := Varint.write (8 * number + shape)

/-- The bytes of a record; only numbers and byte strings are ever written. -/
def write (r : Record) : Bytes :=
  match r.payload with
  | .varint n => key r.number 0 ++ Varint.write n
  | .bytes b => key r.number 2 ++ Varint.write b.length ++ b
  | .fixed64 | .group | .fixed32 => []

def writeAll (rs : List Record) : Bytes := rs.flatMap write

/-! ### Reading -/

/-- The number and the code of the shape in a key; the number is not zero and the key fits 32 bits. -/
def readKey? (b : Bytes) : Option (Nat × Nat × Bytes) :=
  match Varint.read? b with
  | none => none
  | some (k, rest) => if k < 8 ∨ Word.size32 ≤ k then none else some (k / 8, k % 8, rest)

/-- The first `n` bytes and the rest, if there are so many. -/
def splitAt? (n : Nat) (b : Bytes) : Option (Bytes × Bytes) :=
  if n ≤ b.length then some (b.take n, b.drop n) else none

def readPlain? (shape : Nat) (b : Bytes) : Option (Payload × Bytes) :=
  match shape with
  | 0 => (Varint.read? b).map fun p => (.varint p.1, p.2)
  | 1 => (splitAt? 8 b).map fun p => (.fixed64, p.2)
  | 2 =>
    match Varint.read? b with
    | none => none
    | some (n, rest) => (splitAt? n rest).map fun p => (.bytes p.1, p.2)
  | 5 => (splitAt? 4 b).map fun p => (.fixed32, p.2)
  | _ => none

/-- Skips the rest of the group with this number, up to its end.  Groups may be nested while `budget`
lasts; every record inside a group uses it up by one. -/
def skipGroup? : Nat → Nat → Nat → Bytes → Option Bytes
  | 0, _, _, _ => none
  | fuel + 1, budget, number, b =>
    match readKey? b with
    | none => none
    | some (n, shape, rest) =>
      if shape = 4 then if n = number then some rest else none
      else if budget ≤ 1 then none
      else
        let after := if shape = 3 then skipGroup? fuel (budget - 1) n rest
          else (readPlain? shape rest).map (·.2)
        match after with
        | none => none
        | some rest => skipGroup? fuel budget number rest

def read? (budget : Nat) (b : Bytes) : Option (Record × Bytes) :=
  match readKey? b with
  | none => none
  | some (n, shape, rest) =>
    if shape = 3 then
      if budget = 0 then none
      else (skipGroup? rest.length budget n rest).map fun r => (⟨n, .group⟩, r)
    else (readPlain? shape rest).map fun p => (⟨n, p.1⟩, p.2)

/-- Reads records, at most `fuel` of them, until no byte is left. -/
def readUpTo (budget : Nat) : Nat → Bytes → Option (List Record)
  | _, [] => some []
  | 0, _ :: _ => none
  | fuel + 1, b =>
    match read? budget b with
    | none => none
    | some (r, rest) => (readUpTo budget fuel rest).map (r :: ·)

def readAll? (budget : Nat) (b : Bytes) : Option (List Record) := readUpTo budget b.length b

end Record

end Flotilla.Wire
