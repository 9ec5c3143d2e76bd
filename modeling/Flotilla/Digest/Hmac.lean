import Flotilla.Digest.Sha256

/-!
# HMAC-SHA-256

The keyed-hash message authentication code built on SHA-256.
-/

namespace Flotilla.Digest.Hmac

def blockLength : Nat := 64

/-- A key filled with zeros to a whole block; a longer key is hashed first. -/
def blockKey (key : Bytes) : Bytes :=
  let short := if key.length > blockLength then Sha256.hash key else key
  short ++ List.replicate (blockLength - short.length) 0

def tag (key message : Bytes) : Bytes :=
  let inner := (blockKey key).map (· ^^^ 0x36)
  let outer := (blockKey key).map (· ^^^ 0x5c)
  Sha256.hash (outer ++ Sha256.hash (inner ++ message))

@[simp] theorem length_tag (key message : Bytes) : (tag key message).length = 32 := rfl

end Flotilla.Digest.Hmac
