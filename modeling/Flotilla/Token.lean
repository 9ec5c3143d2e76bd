import Flotilla.Digest.Sha256

/-!
# Tokens

A token is a text of 32 ASCII letters and digits.  Tokens are drawn from a fixed sequence, so that a
run can be repeated.
-/

namespace Flotilla.Token

def alphabet : Array Char :=
  "ABCDEFGHIJKLMNOPQRSTUVWXYZabcdefghijklmnopqrstuvwxyz0123456789".toList.toArray

/-- The character that stands for a byte. -/
def letter (b : UInt8) : Char := alphabet.getD (b.toNat % 62) 'A'

/-- The token at a place of the sequence. -/
def draw (n : Nat) : String :=
  String.ofList ((Digest.Sha256.hash (Bytes.ofText (toString n))).map letter)

end Flotilla.Token
