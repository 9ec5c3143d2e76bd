import Mathlib.Tactic.Common
import Flotilla.Token
import Flotilla.Proofs.Rpc.Sealing

/-!
# Keys of different tokens

A short token is filled up to a key, and a long one is cut.  The last byte of a filled key says how many
bytes were added, and it is no letter or digit, so neither two short tokens nor a short token and a minted
one have the same key.  Long tokens have the same key if they begin alike: `Seal.keys_separate`.
-/

namespace Flotilla

/-! ### Minted tokens -/

/-- Texts are written character by character. -/
lemma Bytes.ofText_eq_flatMap (s : String) : ofText s = s.toList.flatMap String.utf8EncodeChar := by
  rw [ofText, String.toUTF8, ← String.utf8Encode_toList, List.utf8Encode, List.data_toByteArray]

namespace Token

variable {token : String}

/-- The text is made as tokens are: of 32 ASCII letters and digits. -/
def IsMinted (token : String) : Prop := token.toList.length = 32 ∧ ∀ c ∈ token.toList, c.isAlphanum = true

lemma isAlphanum_bounds {c : Char} (h : c.isAlphanum = true) : 48 ≤ c.val.toNat ∧ c.val.toNat ≤ 122 := by
  have hrange (low high : Char) (hlow : 48 ≤ low.val.toNat) (hhigh : high.val.toNat ≤ 122)
      (h : low.val ≤ c.val ∧ c.val ≤ high.val) : 48 ≤ c.val.toNat ∧ c.val.toNat ≤ 122 := by
    rw [UInt32.le_iff_toNat_le, UInt32.le_iff_toNat_le] at h
    exact ⟨Nat.le_trans hlow h.1, Nat.le_trans h.2 hhigh⟩
  rcases (Bool.or_eq_true _ _).mp h with hletter | hdigit
  · rcases (Bool.or_eq_true _ _).mp hletter with hupper | hlower
    · exact hrange 'A' 'Z' (by decide) (by decide) (of_decide_eq_true hupper)
    · obtain ⟨hlow, hhigh⟩ := (Bool.and_eq_true _ _).mp hlower
      exact hrange 'a' 'z' (by decide) (by decide) ⟨of_decide_eq_true hlow, of_decide_eq_true hhigh⟩
  · obtain ⟨hlow, hhigh⟩ := (Bool.and_eq_true _ _).mp hdigit
    exact hrange '0' '9' (by decide) (by decide) ⟨of_decide_eq_true hlow, of_decide_eq_true hhigh⟩

/-- A letter or digit takes one byte. -/
lemma utf8EncodeChar_of_isAlphanum {c : Char} (h : c.isAlphanum = true) :
    String.utf8EncodeChar c = [c.val.toUInt8] := by
  apply String.utf8EncodeChar_eq_singleton
  rw [Char.utf8Size_eq_one_iff, UInt32.le_iff_toNat_le]
  exact Nat.le_trans (isAlphanum_bounds h).2 (by decide)

lemma IsMinted.ofText_eq (h : IsMinted token) : Bytes.ofText token = token.toList.map (·.val.toUInt8) := by
  rw [Bytes.ofText_eq_flatMap, List.map_eq_flatMap, List.flatMap_def, List.flatMap_def]
  exact congrArg List.flatten (List.map_congr_left fun c hc => utf8EncodeChar_of_isAlphanum (h.2 c hc))

/-- A minted token is as long as a key. -/
lemma IsMinted.length_ofText (h : IsMinted token) : (Bytes.ofText token).length = 32 := by
  rw [h.ofText_eq, List.length_map, h.1]

/-- No byte of a minted token can be mistaken for the length of a padding. -/
lemma IsMinted.le_of_mem (h : IsMinted token) {b : UInt8} (hb : b ∈ Bytes.ofText token) : 48 ≤ b.toNat := by
  rw [h.ofText_eq] at hb
  obtain ⟨c, hc, rfl⟩ := List.mem_map.1 hb
  have hbounds := isAlphanum_bounds (h.2 c hc)
  rw [UInt32.toNat_toUInt8]
  omega

/-- Tokens that are drawn are made as tokens are. -/
lemma isMinted_draw (n : ℕ) : IsMinted (draw n) := by
  have hletter : ∀ k < 62, (alphabet.getD k 'A').isAlphanum = true := by decide +kernel
  rw [IsMinted, draw, String.toList_ofList]
  refine ⟨by rw [List.length_map, Digest.Sha256.length_hash], fun c hc => ?_⟩
  obtain ⟨b, -, rfl⟩ := List.mem_map.1 hc
  exact hletter _ (Nat.mod_lt _ (by decide))

end Token

namespace Seal

variable {a b token : String}

/-! ### Filling and cutting -/

/-- The key begins the bytes, or it is all of them and behind them `n` copies of the byte `n`. -/
def IsKeyOf (key bytes : Bytes) : Prop :=
  key.length = keyLength ∧
    (key <+: bytes ∨ ∃ n, 0 < n ∧ key = bytes ++ List.replicate n (UInt8.ofNat n))

/-- A long token is cut off. -/
lemma deriveKey_of_le (h : keyLength ≤ (Bytes.ofText token).length) :
    deriveKey token = (Bytes.ofText token).take keyLength := by
  rw [deriveKey, if_pos h]

/-- A short token is filled up with the number of bytes that are missing. -/
lemma deriveKey_of_lt (h : (Bytes.ofText token).length < keyLength) :
    deriveKey token = Bytes.ofText token ++ List.replicate (keyLength - (Bytes.ofText token).length)
      (UInt8.ofNat (keyLength - (Bytes.ofText token).length)) := by
  rw [deriveKey, if_neg (Nat.not_le.2 h)]

/-- The key of a token is what it is filled up to or cut to. -/
lemma deriveKey_eq_iff_isKeyOf {key : Bytes} : deriveKey token = key ↔ IsKeyOf key (Bytes.ofText token) := by
  constructor
  · rintro rfl
    refine ⟨length_deriveKey token, ?_⟩
    by_cases hlong : keyLength ≤ (Bytes.ofText token).length
    · rw [deriveKey_of_le hlong]
      exact .inl (List.take_prefix _ _)
    · rw [deriveKey_of_lt (Nat.not_le.1 hlong)]
      exact .inr ⟨_, Nat.sub_pos_of_lt (Nat.not_le.1 hlong), rfl⟩
  · rintro ⟨hlength, hprefix | ⟨n, hpos, rfl⟩⟩
    · rw [deriveKey_of_le (hlength ▸ hprefix.length_le), List.prefix_iff_eq_take.1 hprefix, hlength]
    · rw [List.length_append, List.length_replicate] at hlength
      obtain rfl : n = keyLength - (Bytes.ofText token).length := by omega
      exact deriveKey_of_lt (by omega)

/-- The bytes of a short token, read off its key: the last byte of the key says how many were added. -/
def unfilled (key : Bytes) : Bytes := key.take (keyLength - (key.getLast?.getD 0).toNat)

/-- The last byte of a key tells how many bytes were filled up. -/
lemma getLast?_deriveKey (h : (Bytes.ofText token).length < keyLength) :
    (deriveKey token).getLast? = some (UInt8.ofNat (keyLength - (Bytes.ofText token).length)) := by
  rw [deriveKey_of_lt h]
  exact Cipher.Padding.getLast?_append_replicate _ (Nat.sub_pos_of_lt h)

/-- How many bytes were added to a short token stands in the last byte of its key. -/
lemma toNat_missing (n : ℕ) : (UInt8.ofNat (keyLength - n)).toNat = keyLength - n := by
  rw [UInt8.toNat_ofNat', Nat.mod_eq_of_lt]
  exact Nat.lt_of_le_of_lt (Nat.sub_le _ _) (by decide)

/-- What was added to a short token can be taken away again. -/
lemma unfilled_deriveKey (h : (Bytes.ofText token).length < keyLength) :
    unfilled (deriveKey token) = Bytes.ofText token := by
  have hkept : keyLength - (keyLength - (Bytes.ofText token).length) = (Bytes.ofText token).length := by omega
  rw [unfilled, getLast?_deriveKey h, Option.getD_some, toNat_missing, hkept, deriveKey_of_lt h, List.take_left]

/-! ### Tokens that have a key of their own -/

/-- The token is shorter than a key, or it is made as tokens are. -/
def HasOwnKey (token : String) : Prop := (Bytes.ofText token).length < keyLength ∨ Token.IsMinted token

/-- A minted token is its own key. -/
lemma deriveKey_of_isMinted (h : Token.IsMinted token) : deriveKey token = Bytes.ofText token := by
  have hlength : (Bytes.ofText token).length = keyLength := h.length_ofText
  rw [deriveKey_of_le (Nat.le_of_eq hlength.symm), ← hlength, List.take_length]

/-- A filled key is not the key of a minted token: its last byte is at most 32. -/
lemma deriveKey_ne_of_isMinted (ha : (Bytes.ofText a).length < keyLength) (hb : Token.IsMinted b) :
    deriveKey a ≠ deriveKey b := by
  intro h
  have hlast := getLast?_deriveKey ha
  rw [h, deriveKey_of_isMinted hb] at hlast
  have hletter := hb.le_of_mem (List.mem_of_getLast? hlast)
  rw [toNat_missing, keyLength] at hletter
  omega

/-- Tokens that have keys of their own have the same key only if they are the same. -/
lemma eq_of_deriveKey_eq (ha : HasOwnKey a) (hb : HasOwnKey b) (h : deriveKey a = deriveKey b) : a = b := by
  apply Bytes.ofText_injective
  rcases ha with ha | ha <;> rcases hb with hb | hb
  · rw [← unfilled_deriveKey ha, h, unfilled_deriveKey hb]
  · exact absurd h (deriveKey_ne_of_isMinted ha hb)
  · exact absurd h.symm (deriveKey_ne_of_isMinted hb ha)
  · rw [← deriveKey_of_isMinted ha, h, deriveKey_of_isMinted hb]

/-! ### Equal keys -/

/-- Tokens with the same key seal alike. -/
lemma close_of_deriveKey_eq (h : deriveKey a = deriveKey b) (message : Bytes) :
    close a message = close b message := by
  rw [close, close, h]

/-- What is sealed under one of two tokens with the same key opens under the other one. -/
lemma open?_close_of_deriveKey_eq (h : deriveKey a = deriveKey b) {t : Wire.MessageType} {ds : List Wire.Datum}
    (hlayout : Wire.Datum.OfLayout t.layout ds) (hsize : (Wire.Datum.encode t ds).length < Word.size64)
    (kind : KeyKind) (cluster sender : String) :
    (Envelope.close kind b cluster sender t ds).open? a t = .ok ds := by
  have hsame : Envelope.close kind b cluster sender t ds = Envelope.close kind a cluster sender t ds := by
    rw [Envelope.close, Envelope.close, close_of_deriveKey_eq h]
  rw [hsame]
  exact Envelope.open?_close_of_decode? (Wire.Datum.decode?_encode hlayout hsize)

/-- What was added to a short token to make a key of it can be taken away again, and two tokens that are
short or minted have the same key only if they are the same.  Any two tokens have the same key if and only if
one key is what both of them are filled up to or cut to; for tokens of 32 bytes or more these are their first
32 bytes.  Whatever is sealed under one of two tokens with the same key opens under the other one. -/
theorem keys_separate (a b : String) :
    ((Bytes.ofText a).length < keyLength → unfilled (deriveKey a) = Bytes.ofText a) ∧
    (HasOwnKey a → HasOwnKey b → (deriveKey a = deriveKey b ↔ a = b)) ∧
    (deriveKey a = deriveKey b ↔ ∃ key, IsKeyOf key (Bytes.ofText a) ∧ IsKeyOf key (Bytes.ofText b)) ∧
    (keyLength ≤ (Bytes.ofText a).length → keyLength ≤ (Bytes.ofText b).length →
      (deriveKey a = deriveKey b ↔
        ∃ start : Bytes, start.length = keyLength ∧ start <+: Bytes.ofText a ∧ start <+: Bytes.ofText b)) ∧
    (deriveKey a = deriveKey b →
      (∀ message, reopen a (close b message) = .ok message ∧ reopen b (close a message) = .ok message) ∧
      ∀ (t : Wire.MessageType) (ds : List Wire.Datum), Wire.Datum.OfLayout t.layout ds →
        (Wire.Datum.encode t ds).length < Word.size64 → ∀ (kind : KeyKind) (cluster sender : String),
          (Envelope.close kind b cluster sender t ds).open? a t = .ok ds ∧
          (Envelope.close kind a cluster sender t ds).open? b t = .ok ds) := by
  refine ⟨unfilled_deriveKey, fun ha hb => ?_, ?_, fun ha hb => ?_, fun h => ⟨fun message => ?_, ?_⟩⟩
  · exact ⟨eq_of_deriveKey_eq ha hb, congrArg deriveKey⟩
  · constructor
    · intro h
      exact ⟨_, deriveKey_eq_iff_isKeyOf.1 h, deriveKey_eq_iff_isKeyOf.1 rfl⟩
    · rintro ⟨key, ha, hb⟩
      rw [deriveKey_eq_iff_isKeyOf.2 ha, deriveKey_eq_iff_isKeyOf.2 hb]
  · constructor
    · intro h
      refine ⟨deriveKey a, length_deriveKey a, ?_, ?_⟩
      · rw [deriveKey_of_le ha]
        exact List.take_prefix _ _
      · rw [h, deriveKey_of_le hb]
        exact List.take_prefix _ _
    · rintro ⟨start, hlength, ha', hb'⟩
      rw [deriveKey_eq_iff_isKeyOf.2 ⟨hlength, .inl ha'⟩, deriveKey_eq_iff_isKeyOf.2 ⟨hlength, .inl hb'⟩]
  · rw [close_of_deriveKey_eq h]
    exact ⟨by rw [← close_of_deriveKey_eq h, reopen_close], reopen_close b message⟩
  · intro t ds hlayout hsize kind cluster sender
    exact ⟨open?_close_of_deriveKey_eq h hlayout hsize kind cluster sender,
      open?_close_of_deriveKey_eq h.symm hlayout hsize kind cluster sender⟩

/-- A short token and a minted one have different keys.  But a longer token that begins like the minted one has
its key, and a token that ends in what is added to the short one has the key of the short one. -/
theorem keys_separate_long_tokens :
    let minted := String.ofList (List.replicate 32 'k')
    let longer := minted ++ "-and-more"
    let short := "abcdefghijklmnopqrstuvwxyzabcd"
    HasOwnKey short ∧ HasOwnKey minted ∧ deriveKey short ≠ deriveKey minted ∧
      unfilled (deriveKey short) = Bytes.ofText short ∧
      deriveKey minted = deriveKey longer ∧ reopen minted (close longer [1, 2, 3]) = .ok [1, 2, 3] ∧
      deriveKey short = deriveKey (short ++ "\x02\x02") := by
  intro minted longer short
  have hshort : (Bytes.ofText short).length < keyLength := by decide +kernel
  have hminted : Token.IsMinted minted := by
    rw [Token.IsMinted, String.toList_ofList]
    exact ⟨List.length_replicate, fun c hc => by rw [List.eq_of_mem_replicate hc]; rfl⟩
  have hlength : (Bytes.ofText minted).length = keyLength := hminted.length_ofText
  have hbegin : Bytes.ofText minted <+: Bytes.ofText longer := by
    rw [Bytes.ofText_eq_flatMap longer, String.toList_append, List.flatMap_append, ← Bytes.ofText_eq_flatMap]
    exact List.prefix_append _ _
  have hkeys : IsKeyOf (Bytes.ofText (short ++ "\x02\x02")) (Bytes.ofText short) ∧
      IsKeyOf (Bytes.ofText (short ++ "\x02\x02")) (Bytes.ofText (short ++ "\x02\x02")) :=
    ⟨⟨by decide +kernel, .inr ⟨2, by decide, by decide +kernel⟩⟩, by decide +kernel, .inl (List.prefix_refl _)⟩
  have hne : short ≠ minted := fun h => by
    rw [h, hlength] at hshort
    exact Nat.lt_irrefl _ hshort
  have hsame : deriveKey minted = deriveKey longer :=
    ((keys_separate minted longer).2.2.2.1 (Nat.le_of_eq hlength.symm)
      (Nat.le_trans (Nat.le_of_eq hlength.symm) hbegin.length_le)).2
      ⟨_, hlength, List.prefix_refl _, hbegin⟩
  refine ⟨.inl hshort, .inr hminted, ?_, (keys_separate short minted).1 hshort, hsame, ?_, ?_⟩
  · exact mt ((keys_separate short minted).2.1 (.inl hshort) (.inr hminted)).1 hne
  · exact (((keys_separate minted longer).2.2.2.2 hsame).1 [1, 2, 3]).1
  · exact (keys_separate short (short ++ "\x02\x02")).2.2.1.2 ⟨_, hkeys⟩

end Seal

end Flotilla
