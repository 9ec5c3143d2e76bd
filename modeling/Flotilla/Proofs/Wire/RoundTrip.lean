import Mathlib.Tactic.Common
import Flotilla.Wire.Datum

/-!
# Messages are read as they were written

What a writer makes of a message are records that fit: their numbers and their lengths are those that a
reader accepts.  Such records are read one after the other as they were written, and each of them finds
its field, as the numbers of a layout are distinct.  The messages inside a message are of lower rank, so
no message exhausts the budget for nesting.
-/

namespace Flotilla.Wire

/-! ### Records -/

namespace Record

/-- The number and the payload are of a size that a reader accepts, and the payload is one that is
written. -/
def Fits (r : Record) : Prop :=
  1 ≤ r.number ∧ r.number < 536870912 ∧
    ((∃ n, r.payload = .varint n ∧ n < Word.size64) ∨
      ∃ b, r.payload = .bytes b ∧ b.length < Word.size64)

/-- The key of a record is read back. -/
lemma readKey?_key {number shape : ℕ} (hpos : 1 ≤ number) (hnumber : number < 536870912)
    (hshape : shape < 8) (rest : Bytes) :
    readKey? (key number shape ++ rest) = some (number, shape, rest) := by
  have hsmall : 8 * number + shape < Word.size64 := by
    rw [Word.size64]
    omega
  have hbounds : ¬ (8 * number + shape < 8 ∨ Word.size32 ≤ 8 * number + shape) := by
    rw [Word.size32]
    omega
  have hdiv : (8 * number + shape) / 8 = number := by omega
  have hmod : (8 * number + shape) % 8 = shape := by omega
  rw [readKey?, key, Varint.read?_write_append hsmall]
  simp only [if_neg hbounds, hdiv, hmod]

lemma splitAt?_append (b rest : Bytes) : splitAt? b.length (b ++ rest) = some (b, rest) := by
  rw [splitAt?, if_pos (by simp), List.take_left, List.drop_left]

/-- A record that fits is read as it was written. -/
lemma read?_write {r : Record} (h : r.Fits) (budget : ℕ) (rest : Bytes) :
    read? budget (r.write ++ rest) = some (r, rest) := by
  obtain ⟨number, payload⟩ := r
  obtain ⟨hpos, hnumber, ⟨n, rfl, hn⟩ | ⟨b, rfl, hb⟩⟩ := h
  · simp only [write, List.append_assoc, read?]
    rw [readKey?_key hpos hnumber (by decide)]
    simp [readPlain?, Varint.read?_write_append hn]
  · simp only [write, List.append_assoc, read?]
    rw [readKey?_key hpos hnumber (by decide)]
    simp [readPlain?, Varint.read?_write_append hb, splitAt?_append]

lemma writeUpTo_ne_nil (left n : ℕ) : Varint.writeUpTo (left + 1) n ≠ [] := by
  rw [Varint.writeUpTo]
  split_ifs <;> exact List.cons_ne_nil _ _

lemma length_write_pos {r : Record} (h : r.Fits) : 0 < r.write.length := by
  obtain ⟨number, payload⟩ := r
  have hkey : ∀ shape, 0 < (key number shape).length := fun shape =>
    List.length_pos_iff.2 (writeUpTo_ne_nil 9 _)
  obtain ⟨-, -, ⟨n, rfl, -⟩ | ⟨b, rfl, -⟩⟩ := h
  · simp only [write, List.length_append]
    exact Nat.add_pos_left (hkey 0) _
  · simp only [write, List.length_append]
    exact Nat.add_pos_left (Nat.add_pos_left (hkey 2) _) _

/-- Every record takes at least a byte. -/
lemma length_le_length_writeAll {rs : List Record} (h : ∀ r ∈ rs, r.Fits) :
    rs.length ≤ (writeAll rs).length := by
  induction rs with
  | nil => exact Nat.zero_le _
  | cons r rs ih =>
    have hr := length_write_pos (h r List.mem_cons_self)
    have hrs := ih fun r' hr' => h r' (List.mem_cons_of_mem _ hr')
    rw [writeAll, List.flatMap_cons, List.length_append, List.length_cons]
    rw [writeAll] at hrs
    omega

/-- Records that fit are read back one after the other. -/
lemma readUpTo_writeAll (budget : ℕ) {fuel : ℕ} {rs : List Record} (h : ∀ r ∈ rs, r.Fits)
    (hfuel : rs.length ≤ fuel) : readUpTo budget fuel (writeAll rs) = some rs := by
  induction rs generalizing fuel with
  | nil =>
    cases fuel <;> rfl
  | cons r rs ih =>
    obtain ⟨fuel, rfl⟩ : ∃ n, fuel = n + 1 := ⟨fuel - 1, by simp at hfuel; omega⟩
    have hr := h r List.mem_cons_self
    have hread := read?_write hr budget (writeAll rs)
    have hrest := ih (fun r' hr' => h r' (List.mem_cons_of_mem _ hr')) (Nat.le_of_succ_le_succ hfuel)
    obtain ⟨x, xs, hbytes⟩ := List.exists_cons_of_ne_nil
      (List.length_pos_iff.1 (length_write_pos hr))
    have hall : writeAll (r :: rs) = r.write ++ writeAll rs := rfl
    rw [hall]
    rw [hbytes, List.cons_append] at hread ⊢
    rw [readUpTo]
    · simp only [hread, hrest, Option.map_some]
    · exact List.cons_ne_nil _ _

/-- Records that fit are read as they were written. -/
lemma readAll?_writeAll (budget : ℕ) {rs : List Record} (h : ∀ r ∈ rs, r.Fits) :
    readAll? budget (writeAll rs) = some rs :=
  readUpTo_writeAll budget h (length_le_length_writeAll h)

/-- What a record carries is no longer than all the records. -/
lemma length_le_of_mem {rs : List Record} {number : ℕ} {b : Bytes}
    (h : (⟨number, .bytes b⟩ : Record) ∈ rs) : b.length ≤ (writeAll rs).length := by
  induction rs with
  | nil => cases h
  | cons r rs ih =>
    rw [writeAll, List.flatMap_cons, List.length_append]
    rcases List.mem_cons.1 h with rfl | hmem
    · simp only [write, List.length_append]
      omega
    · exact Nat.le_trans (ih hmem) (Nat.le_add_left _ _)

end Record

/-! ### Layouts -/

namespace MessageType

/-- How deep messages are nested inside a message at most. -/
def rank : MessageType → ℕ
  | .sealedMessage | .nodeIdentity | .commonResponse | .registerResponse | .user | .inbound | .stat
  | .cert => 0
  | .nodeAuthInfo | .heartbeatResponse | .getUsersResponse | .getStatsResponse | .getCertsResponse => 1
  | .registerRequest | .heartbeatRequest | .addUsersRequest | .deleteUsersRequest | .getUsersRequest
  | .addInboundRequest | .deleteInboundRequest | .getStatsRequest | .obtainCertRequest
  | .getCertsRequest => 2

end MessageType

/-- How deep messages are nested in what a field holds at most. -/
def Kind.rank : Kind → ℕ
  | .scalar _ => 0
  | .message t => t.rank + 1

namespace MessageType

lemma rank_le_of_mem {t : MessageType} : ∀ f ∈ t.layout, f.kind.rank ≤ t.rank := by
  cases t <;> decide

lemma rank_le (t : MessageType) : t.rank ≤ 2 := by cases t <;> decide

lemma number_of_mem {t : MessageType} : ∀ f ∈ t.layout, 1 ≤ f.number ∧ f.number < 536870912 := by
  cases t <;> decide

/-- No two fields of a message have the same number. -/
lemma nodup_numbers (t : MessageType) : (t.layout.map (·.number)).Nodup := by
  cases t <;> decide

end MessageType

namespace Datum

/-! ### Numbers -/

/-- A number with sign is read back from 64 bits. -/
lemma ofNat_twosComplement_int32 (n : Int32) : Int32.ofNat (twosComplement n.toInt) = n := by
  rw [← Int32.toInt_inj, Int32.toInt_ofNat', twosComplement, Word.size64]
  have hlow := n.le_toInt
  have hhigh := n.toInt_lt
  simp only [Int.bmod_def, Int32.size]
  omega

lemma ofNat_twosComplement_int64 (n : Int64) : Int64.ofNat (twosComplement n.toInt) = n := by
  rw [← Int64.toInt_inj, Int64.toInt_ofNat', twosComplement, Word.size64]
  have hlow := n.le_toInt
  have hhigh := n.toInt_lt
  simp only [Int.bmod_def, Int64.size]
  omega

lemma twosComplement_lt (n : Int) : twosComplement n < Word.size64 := by
  rw [twosComplement, Word.size64]
  omega

/-! ### What is written -/

/-- The record has this number, and carries a number of 64 bits or a byte string. -/
def WrittenUnder (number : ℕ) (r : Record) : Prop :=
  r.number = number ∧ ((∃ n, r.payload = .varint n ∧ n < Word.size64) ∨ ∃ b, r.payload = .bytes b)

lemma writtenUnder_of_mem_unlessBlank {always isBlank : Bool} {number : ℕ} {r r' : Record}
    (hr : WrittenUnder number r) (h : r' ∈ unlessBlank always isBlank r) : WrittenUnder number r' := by
  unfold unlessBlank at h
  split_ifs at h
  · cases h
  · rwa [List.mem_singleton.1 h]

mutual

lemma writtenUnder_of_mem_records {number : ℕ} {always : Bool} {r : Record} :
    ∀ d : Datum, r ∈ d.records number always → WrittenUnder number r
  | .text _, h | .blob _, h => writtenUnder_of_mem_unlessBlank ⟨rfl, .inr ⟨_, rfl⟩⟩ h
  | .uint32 n, h =>
    writtenUnder_of_mem_unlessBlank
      ⟨rfl, .inl ⟨_, rfl, Nat.lt_of_lt_of_le n.toNat_lt (by decide)⟩⟩ h
  | .int32 _, h | .int64 _, h =>
    writtenUnder_of_mem_unlessBlank ⟨rfl, .inl ⟨_, rfl, twosComplement_lt _⟩⟩ h
  | .bool b, h =>
    writtenUnder_of_mem_unlessBlank ⟨rfl, .inl ⟨_, rfl, by cases b <;> decide⟩⟩ h
  | .message _ _, h => by
    rw [List.mem_singleton.1 h]
    exact ⟨rfl, .inr ⟨_, rfl⟩⟩
  | .repeated ds, h => writtenUnder_of_mem_itemRecords ds h

lemma writtenUnder_of_mem_itemRecords {number : ℕ} {r : Record} :
    ∀ ds : List Datum, r ∈ itemRecords number ds → WrittenUnder number r
  | d :: ds, h => (List.mem_append.1 h).elim (writtenUnder_of_mem_records d)
      (writtenUnder_of_mem_itemRecords ds)

end

lemma exists_writtenUnder_of_mem_fieldRecords {fs : List Field} {ds : List Datum} {r : Record}
    (h : r ∈ fieldRecords fs ds) : ∃ f ∈ fs, WrittenUnder f.number r := by
  induction fs generalizing ds with
  | nil => simp [fieldRecords] at h
  | cons f fs ih =>
    cases ds with
    | nil => simp [fieldRecords] at h
    | cons d ds =>
      rcases List.mem_append.1 h with hd | hds
      · exact ⟨f, List.mem_cons_self, writtenUnder_of_mem_records d hd⟩
      · obtain ⟨g, hg, hwritten⟩ := ih hds
        exact ⟨g, List.mem_cons_of_mem _ hg, hwritten⟩

/-- The records of a message fit if the message does. -/
lemma fits_of_mem_fieldRecords {t : MessageType} {ds : List Datum}
    (hsize : (encode t ds).length < Word.size64) :
    ∀ r ∈ fieldRecords t.layout ds, r.Fits := by
  rintro ⟨number, payload⟩ hr
  obtain ⟨f, hf, hnumber, hpayload⟩ := exists_writtenUnder_of_mem_fieldRecords hr
  obtain ⟨hpos, hlt⟩ := MessageType.number_of_mem f hf
  simp only at hnumber hpayload
  subst hnumber
  refine ⟨hpos, hlt, hpayload.imp_right ?_⟩
  rintro ⟨b, rfl⟩
  exact ⟨b, rfl, Nat.lt_of_le_of_lt (Record.length_le_of_mem hr) hsize⟩

/-! ### Single values -/

variable {inner : MessageType → List Datum → Bytes → Option (List Datum)} {rank : ℕ}

/-- Messages of lower rank are read as they were written. -/
def ReadsBack (inner : MessageType → List Datum → Bytes → Option (List Datum)) (rank : ℕ) : Prop :=
  ∀ t ds, t.rank < rank → OfLayout t.layout ds → (encode t ds).length < Word.size64 →
    inner t (blankFields t) (encode t ds) = some ds

/-- Reads a payload as a value of a kind. -/
def ofPayloadWith? (inner : MessageType → List Datum → Bytes → Option (List Datum)) :
    Kind → Payload → Option Datum
  | .scalar s, p => ofPayload? s p
  | .message t, .bytes b => (inner t (blankFields t) b).map (.message t)
  | .message _, _ => none

/-- The datum is written as one payload, from which it is read again. -/
def WrittenAs (inner : MessageType → List Datum → Bytes → Option (List Datum)) (k : Kind)
    (d : Datum) (p : Payload) : Prop :=
  (∀ number, d.records number true = [⟨number, p⟩]) ∧
    ∀ number, (⟨number, p⟩ : Record).Fits → ofPayloadWith? inner k p = some d

/-- A datum is read back from one payload if the messages inside it are. -/
lemma exists_writtenAs (hinner : ReadsBack inner rank) {k : Kind} {d : Datum} (h : OfKind k d)
    (hrank : k.rank ≤ rank) : ∃ p, WrittenAs inner k d p := by
  cases k with
  | scalar s =>
    cases s <;> cases d <;> simp only [OfKind] at h
    case text.text t =>
      exact ⟨.bytes (Bytes.ofText t), fun _ => rfl, fun _ _ => by simp [ofPayloadWith?, ofPayload?]⟩
    case blob.blob b =>
      exact ⟨.bytes b, fun _ => rfl, fun _ _ => rfl⟩
    case uint32.uint32 n =>
      exact ⟨.varint n.toNat, fun _ => rfl, fun _ _ => by simp [ofPayloadWith?, ofPayload?]⟩
    case int32.int32 n =>
      exact ⟨.varint (twosComplement n.toInt), fun _ => rfl, fun _ _ => by
        simp [ofPayloadWith?, ofPayload?, ofNat_twosComplement_int32]⟩
    case int64.int64 n =>
      exact ⟨.varint (twosComplement n.toInt), fun _ => rfl, fun _ _ => by
        simp [ofPayloadWith?, ofPayload?, ofNat_twosComplement_int64]⟩
    case bool.bool b =>
      exact ⟨.varint b.toNat, fun _ => rfl, fun _ _ => by cases b <;> rfl⟩
  | message t =>
    cases d <;> simp only [OfKind] at h
    case message t' ds =>
      obtain ⟨rfl, hds⟩ := h
      refine ⟨.bytes (encode t ds), fun _ => rfl, fun number hfits => ?_⟩
      obtain ⟨-, -, ⟨n, hn, -⟩ | ⟨b, hb, hsize⟩⟩ := hfits
      · cases hn
      · cases hb
        simp [ofPayloadWith?, hinner t ds hrank hds hsize]

/-- A value is written unless it is blank and need not be there. -/
lemma records_false {k : Kind} {d : Datum} (h : OfKind k d) (name : String) (number : ℕ) :
    d.records number false = d.records number true ∨
      d.records number false = [] ∧ d = blank ⟨name, number, k, false⟩ := by
  have hblank : ∀ {isBlank : Bool} {r : Record},
      (isBlank = true → d = blank ⟨name, number, k, false⟩) →
        unlessBlank false isBlank r = [r] ∨
          unlessBlank false isBlank r = [] ∧ d = blank ⟨name, number, k, false⟩ := by
    intro isBlank r hd
    cases isBlank with
    | false => exact .inl rfl
    | true => exact .inr ⟨rfl, hd rfl⟩
  cases k with
  | scalar s =>
    cases s <;> cases d <;> simp only [OfKind] at h <;>
      exact hblank fun hd => by simpa [blank, blankScalar] using hd
  | message t =>
    cases d <;> simp only [OfKind] at h
    exact .inl rfl

/-! ### Fields -/

lemma mergeField_repeated (name : String) (number : ℕ) (k : Kind) (ds : List Datum) (p : Payload) :
    mergeField inner ⟨name, number, k, true⟩ (.repeated ds) p =
      (ofPayloadWith? inner k p).map fun d => .repeated (ds ++ [d]) := by
  cases k with
  | scalar s => rfl
  | message t =>
    cases p with
    | bytes b => simp [mergeField, ofPayloadWith?, Option.map_map, Function.comp_def]
    | varint | fixed64 | group | fixed32 => rfl

lemma mergeField_blank (name : String) (number : ℕ) (k : Kind) (p : Payload) :
    mergeField inner ⟨name, number, k, false⟩ (blank ⟨name, number, k, false⟩) p =
      ofPayloadWith? inner k p := by
  cases k with
  | scalar s => rfl
  | message t => cases p <;> rfl

lemma foldlM_itemRecords (hinner : ReadsBack inner rank) {name : String} {number : ℕ} {k : Kind}
    (hrank : k.rank ≤ rank) {ds : List Datum} (h : AllOfKind k ds)
    (hfits : ∀ r ∈ itemRecords number ds, r.Fits) (before : List Datum) :
    (itemRecords number ds).foldlM
        (fun d r => mergeField inner ⟨name, number, k, true⟩ d r.payload) (.repeated before) =
      some (.repeated (before ++ ds)) := by
  induction ds generalizing before with
  | nil => simp [itemRecords]
  | cons d ds ih =>
    obtain ⟨hd, hds⟩ := h
    obtain ⟨p, hrecords, hread⟩ := exists_writtenAs hinner hd hrank
    rw [itemRecords, hrecords] at hfits
    rw [itemRecords, hrecords, List.singleton_append, List.foldlM_cons, mergeField_repeated,
      hread number (hfits _ (by simp))]
    have hrest := ih hds (fun r hr => hfits r (List.mem_cons_of_mem _ hr)) (before ++ [d])
    rw [List.append_assoc, List.singleton_append] at hrest
    exact hrest

/-- The records of a field are read into it as they were written. -/
lemma foldlM_records (hinner : ReadsBack inner rank) {f : Field} {d : Datum} (h : OfField f d)
    (hrank : f.kind.rank ≤ rank) (hfits : ∀ r ∈ d.records f.number false, r.Fits) :
    (d.records f.number false).foldlM (fun d r => mergeField inner f d r.payload) (blank f) =
      some d := by
  obtain ⟨name, number, k, isRepeated⟩ := f
  cases isRepeated with
  | true =>
    cases d <;> simp only [OfField] at h
    case repeated ds => exact foldlM_itemRecords hinner hrank h hfits []
  | false =>
    have hvalue : d = .absent ∧ (∃ t, k = .message t) ∨ OfKind k d := by
      cases k with
      | scalar s => cases s <;> cases d <;> simp_all [OfField, OfKind]
      | message t =>
        cases d <;> simp only [OfField] at h
        · exact .inl ⟨rfl, t, rfl⟩
        · exact .inr h
    rcases hvalue with ⟨rfl, t, rfl⟩ | hd
    · rfl
    · rcases records_false hd name number with hwritten | ⟨hnone, hblank⟩
      · obtain ⟨p, hrecords, hread⟩ := exists_writtenAs hinner hd hrank
        simp only [hwritten, hrecords] at hfits ⊢
        rw [List.foldlM_cons, mergeField_blank, hread number (hfits _ (by simp))]
        rfl
      · -- no record: the reader starts from the blank value, and ends with it
        simp only [hnone]
        rw [← hblank]
        rfl

/-! ### Messages -/

/-- Records under the number of a field are merged into this field. -/
lemma foldlM_mergeRecord_head {f : Field} {fs : List Field} {d : Datum} {ds : List Datum}
    {rs : List Record} (h : ∀ r ∈ rs, r.number = f.number) :
    rs.foldlM (fun ds r => mergeRecord inner r (f :: fs) ds) (d :: ds) =
      (rs.foldlM (fun d r => mergeField inner f d r.payload) d).map (· :: ds) := by
  induction rs generalizing d with
  | nil => rfl
  | cons r rs ih =>
    have hr : f.number = r.number := (h r List.mem_cons_self).symm
    rw [List.foldlM_cons, List.foldlM_cons, mergeRecord, if_pos hr]
    cases mergeField inner f d r.payload with
    | none => rfl
    | some d' => exact ih fun r' hr' => h r' (List.mem_cons_of_mem _ hr')

lemma foldlM_mergeRecord_tail {f : Field} {fs : List Field} {d : Datum} {ds : List Datum}
    {rs : List Record} (h : ∀ r ∈ rs, r.number ≠ f.number) :
    rs.foldlM (fun ds r => mergeRecord inner r (f :: fs) ds) (d :: ds) =
      (rs.foldlM (fun ds r => mergeRecord inner r fs ds) ds).map (d :: ·) := by
  induction rs generalizing ds with
  | nil => rfl
  | cons r rs ih =>
    have hr : ¬ f.number = r.number := fun heq => h r List.mem_cons_self heq.symm
    rw [List.foldlM_cons, List.foldlM_cons, mergeRecord, if_neg hr]
    cases mergeRecord inner r fs ds with
    | none => rfl
    | some ds' => exact ih fun r' hr' => h r' (List.mem_cons_of_mem _ hr')

/-- The records of all fields are read into them as they were written. -/
lemma foldlM_fieldRecords (hinner : ReadsBack inner rank) {fs : List Field} {ds : List Datum}
    (h : OfLayout fs ds) (hnodup : (fs.map (·.number)).Nodup) (hrank : ∀ f ∈ fs, f.kind.rank ≤ rank)
    (hfits : ∀ r ∈ fieldRecords fs ds, r.Fits) :
    (fieldRecords fs ds).foldlM (fun ds r => mergeRecord inner r fs ds) (fs.map blank) = some ds := by
  induction fs generalizing ds with
  | nil =>
    cases ds <;> simp only [OfLayout] at h
    rfl
  | cons f fs ih =>
    cases ds <;> simp only [OfLayout] at h
    case cons d ds =>
      obtain ⟨hd, hds⟩ := h
      obtain ⟨hnew, hnodup⟩ := List.nodup_cons.1 hnodup
      have hhead : ∀ r ∈ d.records f.number false, r.number = f.number := fun r hr =>
        (writtenUnder_of_mem_records d hr).1
      -- numbers are distinct, so no record of another field is read into this one
      have htail : ∀ r ∈ fieldRecords fs ds, r.number ≠ f.number := by
        intro r hr heq
        obtain ⟨g, hg, hnumber, -⟩ := exists_writtenUnder_of_mem_fieldRecords hr
        exact hnew (List.mem_map.2 ⟨g, hg, hnumber.symm.trans heq⟩)
      have hfield := foldlM_records hinner hd (hrank f List.mem_cons_self) fun r hr =>
        hfits r (List.mem_append_left _ hr)
      have hrest := ih hds hnodup (fun g hg => hrank g (List.mem_cons_of_mem _ hg)) fun r hr =>
        hfits r (List.mem_append_right _ hr)
      rw [fieldRecords, List.foldlM_append, List.map_cons, foldlM_mergeRecord_head hhead, hfield]
      exact (foldlM_mergeRecord_tail htail).trans (by rw [hrest]; rfl)

/-- A budget suffices for the messages of lower rank. -/
lemma readsBack_merge (budget : ℕ) : ReadsBack (merge budget) budget := by
  induction budget with
  | zero => exact fun t ds hrank => absurd hrank (Nat.not_lt_zero _)
  | succ budget ih =>
    intro t ds hrank hlayout hsize
    have hfits := fits_of_mem_fieldRecords hsize
    have hranks : ∀ f ∈ t.layout, f.kind.rank ≤ budget := fun f hf =>
      Nat.le_trans (t.rank_le_of_mem f hf) (Nat.le_of_lt_succ hrank)
    rw [merge, encode, Record.readAll?_writeAll _ hfits]
    exact foldlM_fieldRecords ih hlayout t.nodup_numbers hranks hfits

/-- A message is read as it was written, whatever its fields hold. -/
theorem decode?_encode {t : MessageType} {ds : List Datum} (h : OfLayout t.layout ds)
    (hsize : (encode t ds).length < Word.size64) : decode? t (encode t ds) = some ds :=
  readsBack_merge nestingLimit t ds (Nat.lt_of_le_of_lt t.rank_le (by decide)) h hsize

end Datum

end Flotilla.Wire
