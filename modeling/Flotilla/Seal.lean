import Flotilla.Digest.Hmac
import Flotilla.Cipher.Aes
import Flotilla.Cipher.Chaining
import Flotilla.Cipher.Padding

/-!
# Sealing under a token

A token of any length is turned into a key of 32 bytes.  Sealing encrypts a byte string with
AES-256 in chaining mode, the first half of the key as initial block, and appends the
authentication tag of the result.  Opening checks the tag before it decrypts.
-/

namespace Flotilla

/-- The reasons why a sealed byte string does not open. -/
inductive SealError where
  | truncated
  | integrity
  | padding
  deriving DecidableEq, Repr

def SealError.message : SealError → String
  | .truncated => "sealed payload is too short"
  | .integrity => "sealed payload failed integrity check"
  | .padding => "invalid block padding"

namespace Seal

open Cipher

def keyLength : Nat := 32

def tagLength : Nat := 32

/-- A token of 32 bytes or more is cut to 32; a shorter one is filled up by `n` copies of the byte `n`,
so that the padding can be stripped again. -/
def deriveKey (token : String) : Bytes :=
  let bytes := Bytes.ofText token
  let missing := keyLength - bytes.length
  if bytes.length ≥ keyLength then bytes.take keyLength
  else bytes ++ List.replicate missing (UInt8.ofNat missing)

/-- The key of the authentication tag that goes with an encryption key. -/
def tagKey (key : Bytes) : Bytes := Digest.Sha256.hash (key ++ Bytes.ofText "proxyfleet-mac")

def halves (key : Bytes) : Aes.Block × Aes.Block :=
  match Aes.Block.ofBytes? key with
  | some [a, b] => (a, b)
  | _ => default

/-- Encrypts whole blocks; the initial block is the first half of the key. -/
def encryptBlocks (key : Bytes) (blocks : List Aes.Block) : List Aes.Block :=
  let (a, b) := halves key
  chain Aes.Block.xor (Aes.encrypt (.ofKey a b)) a blocks

def decryptBlocks (key : Bytes) (blocks : List Aes.Block) : List Aes.Block :=
  let (a, b) := halves key
  unchain Aes.Block.xor (Aes.decrypt (.ofKey a b)) a blocks

/-- The message filled up to whole blocks and encrypted. -/
def encryptBody (key : Bytes) (message : Bytes) : Bytes :=
  (encryptBlocks key ((Aes.Block.ofBytes? (Padding.fill message)).getD [])).flatMap Aes.Block.toBytes

/-- The message inside an encrypted body, if the body is made of whole blocks and well padded. -/
def decryptBody? (key : Bytes) (body : Bytes) : Option Bytes := do
  let blocks ← Aes.Block.ofBytes? body
  Padding.strip? ((decryptBlocks key blocks).flatMap Aes.Block.toBytes)

/-- The encrypted message followed by its tag. -/
def close (token : String) (message : Bytes) : Bytes :=
  let key := deriveKey token
  let body := encryptBody key message
  body ++ Digest.Hmac.tag (tagKey key) body

/-- The message inside a sealed byte string.  The length is checked first, then the tag, and the
padding last. -/
def reopen (token : String) (closed : Bytes) : Except SealError Bytes :=
  let key := deriveKey token
  if closed.length < Padding.blockLength + tagLength then .error .truncated
  else
    let body := closed.take (closed.length - tagLength)
    let tag := closed.drop (closed.length - tagLength)
    if tag ≠ Digest.Hmac.tag (tagKey key) body then .error .integrity
    else match decryptBody? key body with
      | none => .error .padding
      | some message => .ok message

@[simp] theorem length_deriveKey (token : String) : (deriveKey token).length = keyLength := by
  simp only [deriveKey]
  split
  · simp only [List.length_take]; omega
  · simp only [List.length_append, List.length_replicate]; omega

end Seal

end Flotilla
