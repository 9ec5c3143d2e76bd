import Flotilla.Bytes

/-!
# Block padding

A message is filled up to whole blocks of sixteen bytes by `n` copies of the byte `n`.  At least one
byte is added, so the padding can always be told from the message.
-/

namespace Flotilla.Cipher.Padding

def blockLength : Nat := 16

/-- The number of bytes added to a message of `n` bytes. -/
def added (n : Nat) : Nat := blockLength - n % blockLength

def fill (message : Bytes) : Bytes :=
  let n := added message.length
  message ++ List.replicate n (UInt8.ofNat n)

/-- The message that was filled up, unless the padding is malformed. -/
def strip? (filled : Bytes) : Option Bytes :=
  match filled.getLast? with
  | none => none
  | some last =>
    let n := last.toNat
    if 1 ≤ n ∧ n ≤ blockLength ∧ n ≤ filled.length ∧
        filled.drop (filled.length - n) = List.replicate n last then
      some (filled.take (filled.length - n))
    else none

/-- At least one byte is added, also to a message that fills whole blocks. -/
theorem length_fill (message : Bytes) :
    (fill message).length = blockLength * (message.length / blockLength + 1) := by
  simp only [fill, added, List.length_append, List.length_replicate, blockLength]
  omega

end Flotilla.Cipher.Padding
