import Flotilla.Bytes

/-!
# Faults in encoded texts

Where a byte string stops being the UTF-8 form of a text.  A character starts with a lead byte, which says
in which ranges the bytes after it have to lie; a fault is a lead byte without them.
-/

namespace Flotilla.Text

/-- The first place where bytes write no character. -/
structure Fault where
  /-- How many bytes before it write characters. -/
  index : Nat
  /-- How many bytes are to blame; nothing if the bytes end inside a character. -/
  length : Option Nat
  deriving DecidableEq, Inhabited, Repr

def Fault.message (f : Fault) : String :=
  match f.length with
  | some n => "invalid utf-8 sequence of " ++ toString n ++ " bytes from index " ++ toString f.index
  | none => "incomplete utf-8 byte sequence from index " ++ toString f.index

/-- The ranges of the bytes that follow a lead byte. -/
def followers? (lead : UInt8) : Option (List (UInt8 × UInt8)) :=
  let tail : UInt8 × UInt8 := (0x80, 0xbf)
  if lead < 0x80 then some []
  else if 0xc2 ≤ lead ∧ lead ≤ 0xdf then some [tail]
  else if lead = 0xe0 then some [(0xa0, 0xbf), tail]
  else if lead = 0xed then some [(0x80, 0x9f), tail]
  else if 0xe1 ≤ lead ∧ lead ≤ 0xef then some [tail, tail]
  else if lead = 0xf0 then some [(0x90, 0xbf), tail, tail]
  else if lead = 0xf4 then some [(0x80, 0x8f), tail, tail]
  else if 0xf1 ≤ lead ∧ lead ≤ 0xf3 then some [tail, tail, tail]
  else none

/-- The first fault among bytes; `start` is the index of the last lead byte, `index` that of the first byte,
and `owed` are the ranges of the bytes that the lead byte still asks for. -/
def faultFrom? (start index : Nat) : List (UInt8 × UInt8) → Bytes → Option Fault
  | [], [] => none
  | _ :: _, [] => some ⟨start, none⟩
  | [], b :: bs =>
    match followers? b with
    | some owed => faultFrom? index (index + 1) owed bs
    | none => some ⟨index, some 1⟩
  | (low, high) :: owed, b :: bs =>
    if low ≤ b ∧ b ≤ high then faultFrom? start (index + 1) owed bs
    else some ⟨start, some (index - start)⟩

def fault? (b : Bytes) : Option Fault := faultFrom? 0 0 [] b

end Flotilla.Text
