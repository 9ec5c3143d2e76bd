/-!
# Cipher block chaining

Each block is combined with the encrypted block before it, so that equal blocks of a message differ
once encrypted.  The mode works over any block cipher: an operation `mix` that is its own inverse, an
encryption of blocks and a decryption that undoes it.
-/

namespace Flotilla.Cipher

variable {β : Type}

/-- Encrypts a list of blocks; `previous` is the encrypted block before the first one. -/
def chain (mix : β → β → β) (encrypt : β → β) : β → List β → List β
  | _, [] => []
  | previous, p :: ps =>
    let c := encrypt (mix p previous)
    c :: chain mix encrypt c ps

/-- Decrypts a list of blocks; `previous` is the encrypted block before the first one. -/
def unchain (mix : β → β → β) (decrypt : β → β) : β → List β → List β
  | _, [] => []
  | previous, c :: cs => mix (decrypt c) previous :: unchain mix decrypt c cs

@[simp] theorem length_chain (mix : β → β → β) (encrypt : β → β) (iv : β) (ps : List β) :
    (chain mix encrypt iv ps).length = ps.length := by
  induction ps generalizing iv with
  | nil => rfl
  | cons p ps ih => simp [chain, ih]

@[simp] theorem length_unchain (mix : β → β → β) (decrypt : β → β) (iv : β) (cs : List β) :
    (unchain mix decrypt iv cs).length = cs.length := by
  induction cs generalizing iv with
  | nil => rfl
  | cons c cs ih => simp [unchain, ih]

end Flotilla.Cipher
