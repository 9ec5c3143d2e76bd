/-!
# Words

How many numbers words of 32 and 64 bits tell apart, and which whole numbers a word of 64 bits holds if
one bit is the sign.
-/

namespace Flotilla.Word

/-- The number of words of 32 bits. -/
def size32 : Nat := 4294967296

/-- The number of words of 64 bits. -/
def size64 : Nat := 18446744073709551616

/-- The least number of 64 bits with sign. -/
def minSigned : Int := -9223372036854775808

/-- The greatest number of 64 bits with sign. -/
def maxSigned : Int := 9223372036854775807

def fitsSigned (n : Int) : Bool := minSigned ≤ n && n ≤ maxSigned

theorem fitsSigned_iff (n : Int) : fitsSigned n = true ↔ minSigned ≤ n ∧ n ≤ maxSigned := by
  simp [fitsSigned]

end Flotilla.Word
