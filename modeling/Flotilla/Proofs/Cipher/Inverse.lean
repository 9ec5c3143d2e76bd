import Mathlib.Data.LawfulXor.Basic
import Mathlib.Tactic.Common
import Flotilla.Cipher.Aes
import Flotilla.Cipher.Chaining
import Flotilla.Cipher.Padding

/-!
# What the cipher does can be undone

Each step of a round of AES has an inverse, so decryption undoes encryption and encryption undoes
decryption, whatever the round keys are.  Chaining inherits both from its block cipher.  Padding is
canonical: a byte string of whole blocks ends in the padding of one message at most.
-/

namespace Flotilla.Cipher

/-! ### Bytes -/

namespace Aes

lemma xor_left_comm (x y z : UInt8) : x ^^^ (y ^^^ z) = y ^^^ (x ^^^ z) := by
  rw [← UInt8.xor_assoc, UInt8.xor_comm x y, UInt8.xor_assoc]

/-- A box undoes another one if it leads from each of its entries back to their place. -/
lemma getD_getD {box unbox : Array UInt8} (x : UInt8)
    (h : (box.toList.map fun y => unbox.toList.getD y.toNat 0) = (List.range 256).map UInt8.ofNat) :
    unbox.getD (box.getD x.toNat 0).toNat 0 = x := by
  have hx : x.toNat < 256 := x.toNat_lt
  have hplace := congrArg (·[x.toNat]?) h
  simp only [List.getElem?_map, List.getElem?_range hx, Option.map_some, UInt8.ofNat_toNat] at hplace
  obtain ⟨y, hy, hback⟩ := Option.map_eq_some_iff.1 hplace
  rw [Array.getElem?_toList] at hy
  rw [Array.getD_eq_getD_getElem?, Array.getD_eq_getD_getElem?, hy, Option.getD_some, ← hback,
    List.getD_eq_getElem?_getD, Array.getElem?_toList]

/-- The second table undoes the first one; all 256 entries are compared. -/
lemma map_substitution :
    (substitution.toList.map fun y => inverseSubstitution.toList.getD y.toNat 0) =
      (List.range 256).map UInt8.ofNat := by
  decide +kernel

/-- The first table undoes the second one; all 256 entries are compared. -/
lemma map_inverseSubstitution :
    (inverseSubstitution.toList.map fun y => substitution.toList.getD y.toNat 0) =
      (List.range 256).map UInt8.ofNat := by
  decide +kernel

@[simp] lemma unsub_sub (x : UInt8) : unsub (sub x) = x := by
  rw [unsub, sub, getD_getD x map_substitution]

@[simp] lemma sub_unsub (x : UInt8) : sub (unsub x) = x := by
  rw [sub, unsub, getD_getD x map_inverseSubstitution]

lemma lt_iff_msb_eq_false (x : UInt8) : x < 0x80 ↔ x.toBitVec.msb = false := by
  have hbound : (0x80 : UInt8).toNat = 128 := rfl
  rw [BitVec.msb_eq_decide, decide_eq_false_iff_not, UInt8.lt_iff_toNat_lt, hbound, Nat.not_le]
  rfl

/-- Doubling is linear: the correction by `0x1b` depends on the highest bit alone. -/
lemma double_xor (x y : UInt8) : double (x ^^^ y) = double x ^^^ double y := by
  simp only [double, UInt8.shiftLeft_xor, lt_iff_msb_eq_false, UInt8.toBitVec_xor, BitVec.msb_xor]
  cases x.toBitVec.msb <;> cases y.toBitVec.msb <;>
    simp [UInt8.xor_assoc, UInt8.xor_comm, xor_left_comm]

/-! ### Columns -/

namespace Column

/-- A column with four times the sum of a byte and its opposite added to both of them. -/
def corrected (c : Column) : Column :=
  let even := quadruple (c.b0 ^^^ c.b2)
  let odd := quadruple (c.b1 ^^^ c.b3)
  ⟨c.b0 ^^^ even, c.b1 ^^^ odd, c.b2 ^^^ even, c.b3 ^^^ odd⟩

/-- The inverse of mixing is a correction, and then mixing itself. -/
lemma unmix_eq (c : Column) : c.unmix = c.corrected.mix := rfl

/-- To mix twice is to correct: squares of sums are sums of squares here. -/
lemma mix_mix (c : Column) : c.mix.mix = c.corrected := by
  simp [mix, corrected, quadruple, double_xor, UInt8.xor_assoc, UInt8.xor_comm, xor_left_comm]

lemma mix_corrected (c : Column) : c.corrected.mix = c.mix.corrected := by
  rw [← mix_mix, ← mix_mix]

lemma corrected_corrected (c : Column) : c.corrected.corrected = c := by
  simp [corrected, quadruple, double_xor, UInt8.xor_comm, xor_left_comm]

@[simp] lemma unmix_mix (c : Column) : c.mix.unmix = c := by
  calc c.mix.unmix = c.mix.corrected.mix := unmix_eq c.mix
    _ = c.corrected.corrected := by rw [mix_corrected, mix_mix]
    _ = c := corrected_corrected c

@[simp] lemma mix_unmix (c : Column) : c.unmix.mix = c := by
  rw [unmix_eq, mix_mix, corrected_corrected]

lemma xor_xor (c d : Column) : (c.xor d).xor d = c := by
  simp [xor]

end Column

/-! ### Blocks -/

namespace Block

@[simp] lemma xor_xor (s t : Block) : (s.xor t).xor t = s := by
  simp [xor, Column.xor_xor]

@[simp] lemma unsubstitute_substitute (s : Block) : s.substitute.unsubstitute = s := by
  simp [substitute, unsubstitute, map, Column.map]

@[simp] lemma substitute_unsubstitute (s : Block) : s.unsubstitute.substitute = s := by
  simp [substitute, unsubstitute, map, Column.map]

@[simp] lemma map_unmix_map_mix (s : Block) : (s.map Column.mix).map Column.unmix = s := by
  simp [map]

@[simp] lemma map_mix_map_unmix (s : Block) : (s.map Column.unmix).map Column.mix = s := by
  simp [map]

lemma length_flatMap_toBytes (bs : List Block) : (bs.flatMap toBytes).length = 16 * bs.length := by
  induction bs with
  | nil => rfl
  | cons b bs ih =>
    rw [List.flatMap_cons, List.length_append, ih, length_toBytes, List.length_cons]
    omega

/-- A byte string is made of blocks if it is what they write. -/
lemma ofBytes?_eq_some_iff {b : Bytes} {bs : List Block} :
    ofBytes? b = some bs ↔ b = bs.flatMap toBytes := by
  constructor
  · intro h
    fun_induction ofBytes? b generalizing bs with
    | case1 =>
      cases h
      rfl
    | case2 a0 a1 a2 a3 b0 b1 b2 b3 c0 c1 c2 c3 d0 d1 d2 d3 rest ih =>
      obtain ⟨bs', hrest, rfl⟩ := Option.map_eq_some_iff.1 h
      rw [List.flatMap_cons, ← ih hrest]
      rfl
    | case3 => cases h
  · rintro rfl
    exact ofBytes?_flatMap_toBytes bs

/-- A byte string is made of blocks if its length is a multiple of that of a block. -/
lemma isSome_ofBytes?_iff {b : Bytes} : (ofBytes? b).isSome ↔ b.length % 16 = 0 := by
  constructor
  · intro h
    obtain ⟨bs, hbs⟩ := Option.isSome_iff_exists.1 h
    rw [ofBytes?_eq_some_iff.1 hbs, length_flatMap_toBytes, Nat.mul_mod_right]
  · intro h
    fun_induction ofBytes? b with
    | case1 => rfl
    | case2 a0 a1 a2 a3 b0 b1 b2 b3 c0 c1 c2 c3 d0 d1 d2 d3 rest ih =>
      rw [Option.isSome_map]
      apply ih
      simp only [List.length_cons] at h
      omega
    | case3 b hnil hlong =>
      exfalso
      match b with
      | [] => exact hnil rfl
      | [_] | [_, _] | [_, _, _] | [_, _, _, _] | [_, _, _, _, _] | [_, _, _, _, _, _]
      | [_, _, _, _, _, _, _] | [_, _, _, _, _, _, _, _] | [_, _, _, _, _, _, _, _, _]
      | [_, _, _, _, _, _, _, _, _, _] | [_, _, _, _, _, _, _, _, _, _, _]
      | [_, _, _, _, _, _, _, _, _, _, _, _] | [_, _, _, _, _, _, _, _, _, _, _, _, _]
      | [_, _, _, _, _, _, _, _, _, _, _, _, _, _]
      | [_, _, _, _, _, _, _, _, _, _, _, _, _, _, _] => simp at h
      | _ :: _ :: _ :: _ :: _ :: _ :: _ :: _ :: _ :: _ :: _ :: _ :: _ :: _ :: _ :: _ :: rest =>
        exact hlong _ _ _ _ _ _ _ _ _ _ _ _ _ _ _ _ rest rfl

end Block

/-! ### Rounds -/

lemma applyRounds_cons_cons (k k' : Block) (ks : List Block) (s : Block) :
    applyRounds (k :: k' :: ks) s =
      applyRounds (k' :: ks) ((s.substitute.shift.map Column.mix).xor k) := by
  rw [applyRounds]
  exact List.cons_ne_nil _ _

lemma undoRounds_singleton (k s : Block) : undoRounds [k] s = (s.xor k).unshift.unsubstitute := rfl

lemma undoRounds_cons_cons (k k' : Block) (ks : List Block) (s : Block) :
    undoRounds (k :: k' :: ks) s =
      (((undoRounds (k' :: ks) s).xor k).map Column.unmix).unshift.unsubstitute := by
  -- `rw [undoRounds]` would meet the function again in what it unfolds to
  delta undoRounds
  rfl

/-- All rounds of encryption can be undone. -/
lemma undoRounds_applyRounds (ks : List Block) (s : Block) : undoRounds ks (applyRounds ks s) = s := by
  induction ks generalizing s with
  | nil => rfl
  | cons k ks ih =>
    cases ks with
    | nil => simp [applyRounds, undoRounds_singleton]
    | cons k' ks =>
      rw [undoRounds_cons_cons, applyRounds_cons_cons, ih]
      simp

/-- Rounds that are undone can be done again. -/
lemma applyRounds_undoRounds (ks : List Block) (s : Block) : applyRounds ks (undoRounds ks s) = s := by
  induction ks generalizing s with
  | nil => rfl
  | cons k ks ih =>
    cases ks with
    | nil => simp [applyRounds, undoRounds_singleton]
    | cons k' ks =>
      rw [applyRounds_cons_cons, undoRounds_cons_cons]
      simp [ih]

/-- Decryption undoes encryption. -/
@[simp] theorem decrypt_encrypt (keys : Schedule) (s : Block) : decrypt keys (encrypt keys s) = s := by
  rw [decrypt, encrypt, undoRounds_applyRounds, Block.xor_xor]

/-- Encryption undoes decryption. -/
@[simp] theorem encrypt_decrypt (keys : Schedule) (s : Block) : encrypt keys (decrypt keys s) = s := by
  rw [encrypt, decrypt, Block.xor_xor, applyRounds_undoRounds]

end Aes

/-! ### Chaining -/

section Chaining

variable {β : Type} {mix : β → β → β} {encrypt decrypt : β → β} (hmix : ∀ a b, mix (mix a b) b = a)

include hmix

/-- A chain of blocks is decrypted to what was encrypted, whatever the cipher of one block is. -/
lemma unchain_chain (hinverse : ∀ a, decrypt (encrypt a) = a) (iv : β) (ps : List β) :
    unchain mix decrypt iv (chain mix encrypt iv ps) = ps := by
  induction ps generalizing iv with
  | nil => rfl
  | cons p ps ih => rw [chain, unchain, hinverse, hmix, ih]

/-- A chain of blocks is encrypted to what was decrypted, whatever the cipher of one block is. -/
lemma chain_unchain (hinverse : ∀ a, encrypt (decrypt a) = a) (iv : β) (cs : List β) :
    chain mix encrypt iv (unchain mix decrypt iv cs) = cs := by
  induction cs generalizing iv with
  | nil => rfl
  | cons c cs ih => rw [unchain, chain, hmix, hinverse, ih]

end Chaining

/-! ### Padding -/

namespace Padding

/-- The byte string ends in `n` copies of the byte `n`, and they fill no more than a block. -/
def EndsIn (filled : Bytes) (n : ℕ) : Prop :=
  1 ≤ n ∧ n ≤ blockLength ∧ ∃ message, filled = message ++ List.replicate n (UInt8.ofNat n)

lemma toNat_ofNat_of_le {n : ℕ} (h : n ≤ blockLength) : (UInt8.ofNat n).toNat = n := by
  rw [UInt8.toNat_ofNat', Nat.mod_eq_of_lt]
  exact Nat.lt_of_le_of_lt h (by decide)

lemma getLast?_append_replicate {message : Bytes} {n : ℕ} (x : UInt8) (h : 1 ≤ n) :
    (message ++ List.replicate n x).getLast? = some x := by
  obtain ⟨k, rfl⟩ : ∃ k, n = k + 1 := ⟨n - 1, by omega⟩
  rw [List.replicate_succ', ← List.append_assoc, List.getLast?_concat]

/-- What is stripped is what stands before the padding. -/
lemma strip?_eq_some_iff {filled message : Bytes} :
    strip? filled = some message ↔
      ∃ n, 1 ≤ n ∧ n ≤ blockLength ∧ filled = message ++ List.replicate n (UInt8.ofNat n) := by
  constructor
  · intro h
    unfold strip? at h
    split at h
    · cases h
    · rename_i last hlast
      simp only at h
      split_ifs at h with hn
      obtain ⟨hpos, hle, -, htail⟩ := hn
      refine ⟨last.toNat, hpos, hle, ?_⟩
      rw [← Option.some.inj h, UInt8.ofNat_toNat, ← htail, List.take_append_drop]
  · rintro ⟨n, hpos, hle, rfl⟩
    have hn := toNat_ofNat_of_le hle
    have hlength : (message ++ List.replicate n (UInt8.ofNat n)).length - n = message.length := by
      rw [List.length_append, List.length_replicate, Nat.add_sub_cancel]
    have htail : (message ++ List.replicate n (UInt8.ofNat n)).drop message.length =
        List.replicate n (UInt8.ofNat n) := List.drop_left
    simp only [strip?, getLast?_append_replicate _ hpos, hn, hlength, htail, List.take_left]
    rw [if_pos]
    simp [hpos, hle]

/-- There is nothing to strip just if the bytes end in no run of their own length. -/
lemma strip?_eq_none_iff {filled : Bytes} : strip? filled = none ↔ ∀ n, ¬ EndsIn filled n := by
  constructor
  · rintro h n ⟨hpos, hle, message, hfilled⟩
    rw [strip?_eq_some_iff.2 ⟨n, hpos, hle, hfilled⟩] at h
    cases h
  · intro h
    by_contra hne
    obtain ⟨message, hmessage⟩ := Option.ne_none_iff_exists'.1 hne
    obtain ⟨n, hpos, hle, hfilled⟩ := strip?_eq_some_iff.1 hmessage
    exact h n ⟨hpos, hle, message, hfilled⟩

lemma length_fill_mod (message : Bytes) : (fill message).length % blockLength = 0 := by
  rw [length_fill, Nat.mul_mod_right]

/-- Padding is stripped from what was filled up. -/
@[simp] lemma strip?_fill (message : Bytes) : strip? (fill message) = some message := by
  refine strip?_eq_some_iff.2 ⟨added message.length, ?_, ?_, rfl⟩
  · have hlt : message.length % blockLength < blockLength := Nat.mod_lt _ (by decide)
    exact Nat.sub_pos_of_lt hlt
  · exact Nat.sub_le _ _

/-- The length of a message tells how much is added to it. -/
lemma eq_added_of_mod {length n : ℕ} (hpos : 1 ≤ n) (hle : n ≤ blockLength)
    (h : (length + n) % blockLength = 0) : n = added length := by
  simp only [added, blockLength] at h hle ⊢
  omega

/-- Only the filled message is stripped to a message, among byte strings of whole blocks. -/
lemma eq_fill_of_strip? {filled message : Bytes} (hblocks : filled.length % blockLength = 0)
    (h : strip? filled = some message) : filled = fill message := by
  obtain ⟨n, hpos, hle, rfl⟩ := strip?_eq_some_iff.1 h
  rw [List.length_append, List.length_replicate] at hblocks
  rw [eq_added_of_mod hpos hle hblocks]
  rfl

end Padding

end Flotilla.Cipher
