import Flotilla.Bytes
import Flotilla.Word

/-!
# Variable-length numbers

A number below 2 ^ 64 is written in groups of seven bits, the least significant first; the high bit of
a byte says that another one follows.  Ten bytes are enough, and of the tenth only one bit is used.
-/

namespace Flotilla.Wire.Varint

/-- The greatest number of bytes. -/
def maxLength : Nat := 10

def writeUpTo : Nat → Nat → Bytes
  | 0, _ => []
  | left + 1, n =>
    if n < 128 then [UInt8.ofNat n] else UInt8.ofNat (n % 128 + 128) :: writeUpTo left (n / 128)

def write (n : Nat) : Bytes := writeUpTo maxLength n

/-- Reads a number from at most `left` bytes; gives the bytes after it, too. -/
def readUpTo : Nat → Bytes → Option (Nat × Bytes)
  | 0, _ => none
  | _ + 1, [] => none
  | left + 1, b :: rest =>
    if b.toNat < 128 then
      if left = 0 ∧ 2 ≤ b.toNat then none else some (b.toNat, rest)
    else (readUpTo left rest).map fun p => (b.toNat - 128 + 128 * p.1, p.2)

def read? (b : Bytes) : Option (Nat × Bytes) := readUpTo maxLength b

theorem readUpTo_writeUpTo (left n : Nat) (rest : Bytes) (h : n < Nat.pow 2 (7 * left + 1)) :
    readUpTo (left + 1) (writeUpTo (left + 1) n ++ rest) = some (n, rest) := by
  induction left generalizing n with
  | zero =>
    have hn : n < 2 := h
    have : (UInt8.ofNat n).toNat = n := by
      simp only [UInt8.toNat_ofNat']; omega
    simp only [writeUpTo]
    split
    · simp only [List.cons_append, List.nil_append, readUpTo, this]
      split
      · split
        · omega
        · rfl
      · omega
    · omega
  | succ left ih =>
    rw [writeUpTo]
    by_cases hn : n < 128
    · have : (UInt8.ofNat n).toNat = n := by
        simp only [UInt8.toNat_ofNat']; omega
      simp [hn, readUpTo, this]
    · have hb : (UInt8.ofNat (n % 128 + 128)).toNat = n % 128 + 128 := by
        simp only [UInt8.toNat_ofNat']; omega
      have hd : n / 128 < 2 ^ (7 * left + 1) := by
        apply Nat.div_lt_of_lt_mul
        calc n < 2 ^ (7 * (left + 1) + 1) := h
          _ = 128 * 2 ^ (7 * left + 1) := by
            rw [show 7 * (left + 1) + 1 = 7 + (7 * left + 1) by omega, Nat.pow_add]
      simp only [hn, if_false, List.cons_append]
      rw [readUpTo, hb, ih _ hd]
      have : ¬ n % 128 + 128 < 128 := by omega
      simp only [this, if_false, Option.map_some]
      congr 2
      omega

@[simp] theorem read?_write_append {n : Nat} (h : n < Word.size64) (rest : Bytes) :
    read? (write n ++ rest) = some (n, rest) :=
  readUpTo_writeUpTo 9 n rest h

end Flotilla.Wire.Varint
