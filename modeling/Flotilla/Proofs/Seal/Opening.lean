import Mathlib.Tactic.Common
import Flotilla.Seal
import Flotilla.Proofs.Cipher.Inverse

/-!
# What opens under a token

The key of a token is made of two blocks, and a filled message of whole ones, so closing never falls
back to a default.  A sealed byte string opens to a message if and only if it is that message
closed.  Any other one is turned down for its length, its tag or its padding, in this order.
-/

namespace Flotilla.Seal

open Cipher

/-! ### Keys -/

/-- The key of a token is made of two blocks. -/
lemma exists_halves (token : String) :
    ∃ a b, deriveKey token = a.toBytes ++ b.toBytes ∧ halves (deriveKey token) = (a, b) := by
  have hlength : (deriveKey token).length = 32 := length_deriveKey token
  obtain ⟨blocks, hblocks⟩ := Option.isSome_iff_exists.1
    (Aes.Block.isSome_ofBytes?_iff.2 (by rw [hlength]))
  have hkey := Aes.Block.ofBytes?_eq_some_iff.1 hblocks
  have htwo : blocks.length = 2 := by
    have hbytes := congrArg List.length hkey
    rw [hlength, Aes.Block.length_flatMap_toBytes] at hbytes
    omega
  match blocks, htwo with
  | [a, b], _ =>
    refine ⟨a, b, ?_, ?_⟩
    · rw [hkey, List.flatMap_cons, List.flatMap_singleton]
    · rw [halves, hblocks]

/-! ### Bodies -/

/-- A message that is filled up consists of blocks. -/
lemma exists_blocks_fill (message : Bytes) :
    ∃ blocks : List Aes.Block, Padding.fill message = blocks.flatMap Aes.Block.toBytes := by
  obtain ⟨blocks, hblocks⟩ := Option.isSome_iff_exists.1
    (Aes.Block.isSome_ofBytes?_iff.2 (Padding.length_fill_mod message))
  exact ⟨blocks, Aes.Block.ofBytes?_eq_some_iff.1 hblocks⟩

lemma encryptBody_of_fill {message : Bytes} {blocks : List Aes.Block} (key : Bytes)
    (h : Padding.fill message = blocks.flatMap Aes.Block.toBytes) :
    encryptBody key message = (encryptBlocks key blocks).flatMap Aes.Block.toBytes := by
  rw [encryptBody, Aes.Block.ofBytes?_eq_some_iff.2 h, Option.getD_some]

@[simp] lemma length_encryptBlocks (key : Bytes) (blocks : List Aes.Block) :
    (encryptBlocks key blocks).length = blocks.length :=
  length_chain _ _ _ _

@[simp] lemma decryptBlocks_encryptBlocks (key : Bytes) (blocks : List Aes.Block) :
    decryptBlocks key (encryptBlocks key blocks) = blocks :=
  unchain_chain Aes.Block.xor_xor (Aes.decrypt_encrypt _) _ blocks

@[simp] lemma encryptBlocks_decryptBlocks (key : Bytes) (blocks : List Aes.Block) :
    encryptBlocks key (decryptBlocks key blocks) = blocks :=
  chain_unchain Aes.Block.xor_xor (Aes.encrypt_decrypt _) _ blocks

@[simp] lemma length_encryptBody (key message : Bytes) :
    (encryptBody key message).length = 16 * (message.length / 16 + 1) := by
  obtain ⟨blocks, hfill⟩ := exists_blocks_fill message
  rw [encryptBody_of_fill key hfill, Aes.Block.length_flatMap_toBytes, length_encryptBlocks,
    ← Aes.Block.length_flatMap_toBytes, ← hfill, Padding.length_fill]
  rfl

/-- Decryption works on whole blocks, and strips the padding. -/
lemma decryptBody?_flatMap_toBytes (key : Bytes) (blocks : List Aes.Block) :
    decryptBody? key (blocks.flatMap Aes.Block.toBytes) =
      Padding.strip? ((decryptBlocks key blocks).flatMap Aes.Block.toBytes) := by
  rw [decryptBody?, Aes.Block.ofBytes?_flatMap_toBytes]
  rfl

/-- A body decrypts to a message if and only if the message encrypts to it. -/
lemma decryptBody?_eq_some_iff {key body message : Bytes} :
    decryptBody? key body = some message ↔ body = encryptBody key message := by
  constructor
  · intro h
    obtain ⟨blocks, hblocks, hstrip⟩ := Option.bind_eq_some_iff.1 h
    have hbody := Aes.Block.ofBytes?_eq_some_iff.1 hblocks
    have hwhole : ((decryptBlocks key blocks).flatMap Aes.Block.toBytes).length %
        Padding.blockLength = 0 := by
      rw [Aes.Block.length_flatMap_toBytes]
      exact Nat.mul_mod_right _ _
    -- whole blocks end in the padding of one message at most, so they are that message filled
    have hfill := Padding.eq_fill_of_strip? hwhole hstrip
    rw [encryptBody_of_fill key hfill.symm, encryptBlocks_decryptBlocks, hbody]
  · rintro rfl
    obtain ⟨blocks, hfill⟩ := exists_blocks_fill message
    rw [encryptBody_of_fill key hfill, decryptBody?_flatMap_toBytes, decryptBlocks_encryptBlocks,
      ← hfill, Padding.strip?_fill]

/-- What is wrong with a body that does not decrypt: it is not made of whole blocks, or the decrypted
blocks do not end in a padding. -/
lemma decryptBody?_eq_none_iff {key body : Bytes} :
    decryptBody? key body = none ↔ body.length % 16 ≠ 0 ∨
      ∃ blocks : List Aes.Block, body = blocks.flatMap Aes.Block.toBytes ∧
        ∀ n, ¬ Padding.EndsIn ((decryptBlocks key blocks).flatMap Aes.Block.toBytes) n := by
  by_cases hwhole : body.length % 16 = 0
  · obtain ⟨blocks, hblocks⟩ := Option.isSome_iff_exists.1
      (Aes.Block.isSome_ofBytes?_iff.2 hwhole)
    obtain rfl := Aes.Block.ofBytes?_eq_some_iff.1 hblocks
    rw [decryptBody?_flatMap_toBytes, Padding.strip?_eq_none_iff]
    constructor
    · intro h
      exact .inr ⟨blocks, rfl, h⟩
    · rintro (h | ⟨blocks', hsame, h⟩)
      · exact absurd hwhole h
      · have hblocks' : some blocks = some blocks' := by
          rw [← Aes.Block.ofBytes?_flatMap_toBytes blocks, hsame,
            Aes.Block.ofBytes?_flatMap_toBytes]
        cases hblocks'
        exact h
  · have hnone : Aes.Block.ofBytes? body = none := by
      rw [← Option.not_isSome_iff_eq_none, Aes.Block.isSome_ofBytes?_iff]
      exact hwhole
    have hbody : decryptBody? key body = none := by
      rw [decryptBody?, hnone]
      rfl
    exact ⟨fun _ => .inl hwhole, fun _ => hbody⟩

/-! ### Sealed byte strings -/

def tagOf (token : String) (body : Bytes) : Bytes :=
  Digest.Hmac.tag (tagKey (deriveKey token)) body

@[simp] lemma length_tagOf (token : String) (body : Bytes) : (tagOf token body).length = 32 :=
  Digest.Hmac.length_tag _ _

/-- What stands before the last 32 bytes. -/
def bodyOf (closed : Bytes) : Bytes := closed.take (closed.length - tagLength)

def sealOf (closed : Bytes) : Bytes := closed.drop (closed.length - tagLength)

lemma bodyOf_append_sealOf (closed : Bytes) : bodyOf closed ++ sealOf closed = closed :=
  List.take_append_drop _ _

/-- What is sealed is an encrypted body with its tag. -/
lemma close_eq (token : String) (message : Bytes) :
    close token message = encryptBody (deriveKey token) message ++
      tagOf token (encryptBody (deriveKey token) message) := rfl

lemma reopen_eq (token : String) (closed : Bytes) :
    reopen token closed =
      if closed.length < 48 then .error .truncated
      else if sealOf closed ≠ tagOf token (bodyOf closed) then .error .integrity
      else match decryptBody? (deriveKey token) (bodyOf closed) with
        | none => .error .padding
        | some message => .ok message := by
  have hbound : Padding.blockLength + tagLength = 48 := rfl
  simp only [reopen, hbound]
  rfl

/-- A sealed message grows by the padding and the tag. -/
lemma length_close (token : String) (message : Bytes) :
    (close token message).length = 16 * (message.length / 16 + 1) + 32 := by
  rw [close_eq, List.length_append, length_encryptBody, length_tagOf]

lemma bodyOf_append_tagOf (token : String) (body : Bytes) :
    bodyOf (body ++ tagOf token body) = body := by
  rw [bodyOf, List.length_append, length_tagOf, tagLength, Nat.add_sub_cancel, List.take_left]

lemma sealOf_append_tagOf (token : String) (body : Bytes) :
    sealOf (body ++ tagOf token body) = tagOf token body := by
  rw [sealOf, List.length_append, length_tagOf, tagLength, Nat.add_sub_cancel, List.drop_left]

/-- Opening undoes closing. -/
@[simp] lemma reopen_close (token : String) (message : Bytes) :
    reopen token (close token message) = .ok message := by
  have hlong : ¬ (close token message).length < 48 := by
    rw [length_close]
    omega
  rw [reopen_eq, if_neg hlong, close_eq, bodyOf_append_tagOf, sealOf_append_tagOf,
    if_neg (not_not.2 rfl), decryptBody?_eq_some_iff.2 rfl]

/-- Nothing opens to a message but what it is closed to. -/
lemma eq_close_of_reopen {token : String} {closed message : Bytes}
    (h : reopen token closed = .ok message) : closed = close token message := by
  rw [reopen_eq] at h
  split_ifs at h with hshort htag
  have htag : sealOf closed = tagOf token (bodyOf closed) := not_not.1 htag
  cases hbody : decryptBody? (deriveKey token) (bodyOf closed) with
  | none => rw [hbody] at h; cases h
  | some opened =>
    rw [hbody] at h
    cases h
    calc closed = bodyOf closed ++ sealOf closed := (bodyOf_append_sealOf closed).symm
      _ = bodyOf closed ++ tagOf token (bodyOf closed) := by rw [htag]
      _ = close token message := by rw [close_eq, ← decryptBody?_eq_some_iff.1 hbody]

/-- Only what was sealed opens. -/
lemma reopen_eq_ok_iff {token : String} {closed message : Bytes} :
    reopen token closed = .ok message ↔ closed = close token message := by
  constructor
  · exact eq_close_of_reopen
  · rintro rfl
    exact reopen_close token message

/-- Whatever is too short is truncated. -/
lemma reopen_eq_truncated_iff {token : String} {closed : Bytes} :
    reopen token closed = .error .truncated ↔ closed.length < 48 := by
  rw [reopen_eq]
  split_ifs with hshort htag
  · simp [hshort]
  · simp [hshort]
  · cases decryptBody? (deriveKey token) (bodyOf closed) <;> simp [hshort]

/-- The tag is checked before anything is decrypted. -/
lemma reopen_eq_integrity_iff {token : String} {closed : Bytes} :
    reopen token closed = .error .integrity ↔
      48 ≤ closed.length ∧ sealOf closed ≠ tagOf token (bodyOf closed) := by
  rw [reopen_eq]
  split_ifs with hshort htag
  · simp [Nat.not_le.2 hshort]
  · simp [Nat.not_lt.1 hshort, htag]
  · cases decryptBody? (deriveKey token) (bodyOf closed) <;> simp [not_not.1 htag]

/-- The padding is checked last. -/
lemma reopen_eq_padding_iff {token : String} {closed : Bytes} :
    reopen token closed = .error .padding ↔
      48 ≤ closed.length ∧ sealOf closed = tagOf token (bodyOf closed) ∧
        decryptBody? (deriveKey token) (bodyOf closed) = none := by
  rw [reopen_eq]
  split_ifs with hshort htag
  · simp [Nat.not_le.2 hshort]
  · simp [htag]
  · cases decryptBody? (deriveKey token) (bodyOf closed) <;>
      simp [Nat.not_lt.1 hshort, not_not.1 htag]

/-- Closing yields the encrypted blocks of the filled message and their tag, a byte string that opens
to the message and to nothing else.  Whatever else is sealed does not open: it is truncated if it is
shorter than 48 bytes, otherwise its integrity is broken if the last 32 bytes are not the tag of the
rest, otherwise its padding is malformed. -/
theorem opens_iff_closed (token : String) :
    ∃ a b : Aes.Block, deriveKey token = a.toBytes ++ b.toBytes ∧
      (∀ message, ∃ blocks : List Aes.Block,
        Padding.fill message = blocks.flatMap Aes.Block.toBytes ∧
        let body := (chain Aes.Block.xor (Aes.encrypt (.ofKey a b)) a blocks).flatMap
          Aes.Block.toBytes
        close token message = body ++ tagOf token body) ∧
      (∀ message, (close token message).length = 16 * (message.length / 16 + 1) + 32) ∧
      ∀ closed,
        (∀ message, reopen token closed = .ok message ↔ closed = close token message) ∧
        (reopen token closed = .error .truncated ↔ closed.length < 48) ∧
        (reopen token closed = .error .integrity ↔
          48 ≤ closed.length ∧ sealOf closed ≠ tagOf token (bodyOf closed)) ∧
        (reopen token closed = .error .padding ↔
          48 ≤ closed.length ∧ sealOf closed = tagOf token (bodyOf closed) ∧
            ((bodyOf closed).length % 16 ≠ 0 ∨
              ∃ blocks : List Aes.Block, bodyOf closed = blocks.flatMap Aes.Block.toBytes ∧
                ∀ n, ¬ Padding.EndsIn ((unchain Aes.Block.xor (Aes.decrypt (.ofKey a b)) a
                  blocks).flatMap Aes.Block.toBytes) n)) := by
  obtain ⟨a, b, hkey, hhalves⟩ := exists_halves token
  refine ⟨a, b, hkey, ?_, length_close token, ?_⟩
  · intro message
    obtain ⟨blocks, hfill⟩ := exists_blocks_fill message
    have hbody : encryptBody (deriveKey token) message =
        (chain Aes.Block.xor (Aes.encrypt (.ofKey a b)) a blocks).flatMap Aes.Block.toBytes := by
      rw [encryptBody_of_fill _ hfill, encryptBlocks, hhalves]
    refine ⟨blocks, hfill, ?_⟩
    rw [close_eq, hbody]
  · intro closed
    refine ⟨fun message => reopen_eq_ok_iff, reopen_eq_truncated_iff, reopen_eq_integrity_iff, ?_⟩
    have hdecrypt (blocks : List Aes.Block) : decryptBlocks (deriveKey token) blocks =
        unchain Aes.Block.xor (Aes.decrypt (.ofKey a b)) a blocks := by
      rw [decryptBlocks, hhalves]
    simp only [reopen_eq_padding_iff, decryptBody?_eq_none_iff, hdecrypt]

end Flotilla.Seal
