import Mathlib.Data.String.Basic
import Flotilla.Proofs.Json.RoundTrip

/-!
# Values that are read

A value that comes from a text has only whole numbers of 64 bits, its objects have their fields in order, and
its lists and objects are nested no deeper than the reader allows.  So it can be written and read again unless
a floating-point number occurs in it.
-/

namespace Flotilla

/-! ### Sorting fields -/

namespace Fields

variable {α : Type} {name : String} {value : α} {fields : Fields α} {f : String × α}

lemma mem_of_mem_put (h : f ∈ put name value fields) : f = (name, value) ∨ f ∈ fields := by
  induction fields with
  | nil => simpa [put] using h
  | cons g rest ih =>
    rw [put] at h
    split_ifs at h
    · simpa using h
    · exact (List.mem_cons.1 h).imp_right (List.mem_cons_of_mem _)
    · rcases List.mem_cons.1 h with rfl | hmem
      · exact .inr List.mem_cons_self
      · exact (ih hmem).imp_right (List.mem_cons_of_mem _)

/-- Fields stay in order when one is put. -/
lemma pairwise_put (h : fields.Pairwise (·.1 < ·.1)) :
    (put name value fields).Pairwise (·.1 < ·.1) := by
  induction fields with
  | nil => exact List.pairwise_singleton _ _
  | cons g rest ih =>
    obtain ⟨hfirst, hrest⟩ := List.pairwise_cons.1 h
    rw [put]
    split_ifs with hlt heq
    · refine List.pairwise_cons.2 ⟨?_, h⟩
      exact List.forall_mem_cons.2 ⟨hlt, fun f hf => lt_trans hlt (hfirst f hf)⟩
    · exact List.pairwise_cons.2 ⟨heq ▸ hfirst, hrest⟩
    · refine List.pairwise_cons.2 ⟨fun f hf => ?_, ih hrest⟩
      rcases mem_of_mem_put hf with rfl | hmem
      · exact lt_of_le_of_ne (not_lt.1 hlt) (Ne.symm heq)
      · exact hfirst f hmem

variable {fields : List (String × α)}

lemma mem_of_mem_ofList (h : f ∈ ofList fields) : f ∈ fields := by
  induction fields using List.reverseRecOn with
  | nil => exact h
  | append_singleton fields g ih =>
    rw [ofList, List.foldl_append] at h
    rcases mem_of_mem_put h with rfl | hmem
    · simp
    · exact List.mem_append_left _ (ih hmem)

/-- Fields that are read are in the order of their names. -/
lemma pairwise_ofList (fields : List (String × α)) : (ofList fields).Pairwise (·.1 < ·.1) := by
  induction fields using List.reverseRecOn with
  | nil => exact .nil
  | append_singleton fields g ih =>
    rw [ofList, List.foldl_append]
    exact pairwise_put ih

end Fields

namespace Json

/-! ### Parts of a value -/

/-- The values that a value is made of, and the value itself. -/
inductive Occurs (part : Json) : Json → Prop
  | self : Occurs part part
  | item {x : Json} {xs : List Json} (hx : x ∈ xs) (h : Occurs part x) : Occurs part (.list xs)
  | field {f : String × Json} {fs : List (String × Json)} (hf : f ∈ fs) (h : Occurs part f.2) :
    Occurs part (.object fs)

/-- No floating-point number occurs in the value. -/
def FloatFree (v : Json) : Prop := ∀ x, ¬ Occurs (.float x) v

/-- The whole numbers in the value are numbers of 64 bits, and its objects have their fields in order.  Every
value that is read is so, with or without floating-point numbers: `within_of_parse?`. -/
structure Regular (v : Json) : Prop where
  int_mem : ∀ n, Occurs (.int n) v → minInt ≤ n ∧ n ≤ maxInt
  ascending : ∀ fs, Occurs (.object fs) v → Ascending fs

variable {v x : Json} {xs : List Json} {f : String × Json} {fs : List (String × Json)} {n : ℕ}

lemma exactItems_iff : ExactItems xs ↔ ∀ x ∈ xs, x.Exact := by
  induction xs with
  | nil => simp [ExactItems]
  | cons x xs ih => simp [ExactItems, ih]

lemma exactFields_iff : ExactFields fs ↔ ∀ f ∈ fs, f.2.Exact := by
  induction fs with
  | nil => simp [ExactFields]
  | cons f fs ih =>
    obtain ⟨name, v⟩ := f
    simp [ExactFields, ExactField, ih]

lemma depthItems_le_iff : depthItems xs ≤ n ↔ ∀ x ∈ xs, x.depth ≤ n := by
  induction xs with
  | nil => simp [depthItems]
  | cons x xs ih => simp [depthItems, ih]

lemma depthFields_le_iff : depthFields fs ≤ n ↔ ∀ f ∈ fs, f.2.depth ≤ n := by
  induction fs with
  | nil => simp [depthFields]
  | cons f fs ih =>
    obtain ⟨name, v⟩ := f
    simp [depthFields, depthField, ih]

lemma FloatFree.item (h : (list xs).FloatFree) (hx : x ∈ xs) : x.FloatFree :=
  fun y hy => h y (.item hx hy)

lemma FloatFree.field (h : (object fs).FloatFree) (hf : f ∈ fs) : f.2.FloatFree :=
  fun y hy => h y (.field hf hy)

lemma Regular.item (h : (list xs).Regular) (hx : x ∈ xs) : x.Regular where
  int_mem n hn := h.int_mem n (.item hx hn)
  ascending fs hfs := h.ascending fs (.item hx hfs)

lemma Regular.field (h : (object fs).Regular) (hf : f ∈ fs) : f.2.Regular where
  int_mem n hn := h.int_mem n (.field hf hn)
  ascending gs hgs := h.ascending gs (.field hf hgs)

lemma Exact.of_occurs (h : v.Exact) (hx : Occurs x v) : x.Exact := by
  induction hx with
  | self => exact h
  | item hx _ ih => exact ih (exactItems_iff.1 h _ hx)
  | field hf _ ih => exact ih (exactFields_iff.1 h.2 _ hf)

/-- A regular value without floats is read back exactly. -/
lemma exact_of_floatFree (v : Json) (hfree : v.FloatFree) (h : v.Regular) : v.Exact := by
  match v with
  | .null | .bool _ | .text _ => trivial
  | .int n => exact h.int_mem n .self
  | .float x => exact absurd .self (hfree x)
  | .list xs =>
    exact exactItems_iff.2 fun x hx => exact_of_floatFree x (hfree.item hx) (h.item hx)
  | .object fs =>
    refine ⟨h.ascending fs .self, exactFields_iff.2 fun f hf => ?_⟩
    exact exact_of_floatFree f.2 (hfree.field hf) (h.field hf)
termination_by sizeOf v
decreasing_by
  · have := List.sizeOf_lt_of_mem hx
    simp
    omega
  · have := List.sizeOf_lt_of_mem hf
    have : sizeOf f = 1 + sizeOf f.1 + sizeOf f.2 := rfl
    simp
    omega

lemma exact_iff : v.Exact ↔ v.FloatFree ∧ v.Regular := by
  constructor
  · exact fun h => ⟨fun _ hx => h.of_occurs hx, fun _ hn => h.of_occurs hn,
      fun _ hfs => (h.of_occurs hfs).1⟩
  · exact fun h => exact_of_floatFree v h.1 h.2

/-! ### Values within a depth -/

/-- What a reader may give that allows so many more levels of lists and objects. -/
structure Within (depth : ℕ) (v : Json) : Prop where
  regular : v.Regular
  depth_le : v.depth ≤ depth

variable {depth : ℕ}

/-- An exact value that is not too deep is within the bounds of the reader. -/
lemma within_of_exact (h : v.Exact) (hdepth : v.depth ≤ depth) : Within depth v :=
  ⟨(exact_iff.1 h).2, hdepth⟩

lemma within_float (x : Binary64) : Within depth (.float x) :=
  ⟨⟨by rintro _ ⟨⟩, by rintro _ ⟨⟩⟩, Nat.zero_le _⟩

lemma within_int {n : Int} (hlow : minInt ≤ n) (hhigh : n ≤ maxInt) : Within depth (.int n) :=
  within_of_exact ⟨hlow, hhigh⟩ (Nat.zero_le _)

lemma within_list (h : ∀ x ∈ xs, Within depth x) : Within (depth + 1) (.list xs) where
  regular :=
    { int_mem := by
        rintro n (_ | ⟨hx, hn⟩)
        exact (h _ hx).regular.int_mem n hn
      ascending := by
        rintro fs (_ | ⟨hx, hfs⟩)
        exact (h _ hx).regular.ascending fs hfs }
  depth_le := Nat.succ_le_succ (depthItems_le_iff.2 fun x hx => (h x hx).depth_le)

lemma ascending_of_pairwise (h : fs.Pairwise (·.1 < ·.1)) : Ascending fs := by
  induction fs with
  | nil => trivial
  | cons f fs ih =>
    obtain ⟨hfirst, hrest⟩ := List.pairwise_cons.1 h
    cases fs with
    | nil => trivial
    | cons g gs => exact ⟨hfirst g List.mem_cons_self, ih hrest⟩

/-- However the fields of an object are written, they come to stand in order. -/
lemma within_ofFields (h : ∀ f ∈ fs, Within depth f.2) : Within (depth + 1) (ofFields fs) where
  regular :=
    { int_mem := by
        rintro n (_ | _ | ⟨hf, hn⟩)
        exact (h _ (Fields.mem_of_mem_ofList hf)).regular.int_mem n hn
      ascending := by
        rintro gs (_ | _ | ⟨hf, hgs⟩)
        · exact ascending_of_pairwise (Fields.pairwise_ofList fs)
        · exact (h _ (Fields.mem_of_mem_ofList hf)).regular.ascending gs hgs }
  depth_le := Nat.succ_le_succ
    (depthFields_le_iff.2 fun f hf => (h f (Fields.mem_of_mem_ofList hf)).depth_le)

/-! ### Numbers -/

/-- Digits are read up to the largest significand. -/
lemma accumulate_le {ds : List Char} (h : n ≤ maxSignificand) :
    (accumulate n ds).1 ≤ maxSignificand := by
  induction ds generalizing n with
  | nil => exact h
  | cons c ds ih =>
    rw [accumulate]
    split_ifs with hlarge
    · exact h
    · exact ih (Nat.not_lt.1 hlarge)

/-- A whole number without an exponent becomes a float where it does not fit. -/
lemma within_withoutExponent {negative whole : Bool} {power : Int} (hn : n ≤ maxSignificand)
    (h : withoutExponent negative whole n power = some v) : Within depth v := by
  simp only [maxSignificand, Word.size64] at hn
  simp only [withoutExponent] at h
  split_ifs at h with hwhole hsign hlarge
  · obtain ⟨x, -, rfl⟩ := Option.map_eq_some_iff.1 h
    exact within_float x
  · cases h
    refine within_int ?_ ?_
    · rw [minInt, Word.minSigned]
      omega
    · rw [maxInt, Word.size64]
      omega
  · obtain ⟨x, -, rfl⟩ := Option.map_eq_some_iff.1 h
    exact within_float x
  · cases h
    rw [Word.maxSigned] at hlarge
    refine within_int ?_ ?_
    · rw [minInt, Word.minSigned]
      omega
    · rw [maxInt, Word.size64]
      omega

lemma within_withExponent {negative down : Bool} {power : Int} {exponent : ℕ}
    (h : withExponent negative n power down exponent = some v) : Within depth v := by
  simp only [withExponent] at h
  split_ifs at h
  · cases h
    exact within_float _
  all_goals
    obtain ⟨x, -, rfl⟩ := Option.map_eq_some_iff.1 h
    exact within_float x

variable {cs rest : List Char}

lemma within_numberEnd {negative whole : Bool} {power : Int} (hn : n ≤ maxSignificand)
    (h : numberEnd negative whole n power cs = some (v, rest)) : Within depth v := by
  cases cs with
  | nil =>
    obtain ⟨v, hv, ⟨⟩⟩ := Option.map_eq_some_iff.1 h
    exact within_withoutExponent hn hv
  | cons e cs =>
    simp only [numberEnd] at h
    split_ifs at h
    · obtain ⟨v, hv, ⟨⟩⟩ := Option.map_eq_some_iff.1 h
      exact within_withExponent hv
    · obtain ⟨v, hv, ⟨⟩⟩ := Option.map_eq_some_iff.1 h
      exact within_withoutExponent hn hv

lemma within_numberTail {negative : Bool} {whole : List Char}
    (h : numberTail negative whole cs = some (v, rest)) : Within depth v := by
  have hwhole : (accumulate 0 whole).1 ≤ maxSignificand := accumulate_le (Nat.zero_le _)
  simp only [numberTail] at h
  split at h
  · split_ifs at h
    exact within_numberEnd (accumulate_le hwhole) h
  · exact within_numberEnd hwhole h

/-- Every number that is read is within bounds. -/
lemma within_number (h : number cs = some (v, rest)) : Within depth v := by
  unfold number at h
  split at h
  split at h
  · cases h
  · cases h
  · exact within_numberTail h

/-! ### Readers -/

/-- With this much fuel, what is read of values, items and fields keeps to the depth. -/
structure Bounded (fuel : ℕ) : Prop where
  value : ∀ {depth : ℕ} {cs rest : List Char} {v : Json},
    value fuel depth cs = some (v, rest) → Within depth v
  items : ∀ {depth : ℕ} {cs rest : List Char} {xs : List Json},
    items fuel depth cs = some (xs, rest) → ∀ x ∈ xs, Within depth x
  fields : ∀ {depth : ℕ} {cs rest : List Char} {fs : List (String × Json)},
    fields fuel depth cs = some (fs, rest) → ∀ f ∈ fs, Within depth f.2

variable {fuel : ℕ}

/-- A value that is read is within bounds if its parts are. -/
lemma Bounded.value_succ (h : Bounded fuel) (hread : Json.value (fuel + 1) depth cs = some (v, rest)) :
    Within depth v := by
  rw [Json.value] at hread
  split at hread
  case h_1 | h_2 | h_3 =>
    cases hread
    exact within_of_exact trivial (Nat.zero_le _)
  case h_4 =>
    obtain ⟨p, -, ⟨⟩⟩ := Option.map_eq_some_iff.1 hread
    exact within_of_exact trivial (Nat.zero_le _)
  case h_5 =>
    cases depth with
    | zero => cases hread
    | succ depth =>
      dsimp only at hread
      split at hread
      · cases hread
        exact within_list (by simp)
      · obtain ⟨p, hitems, ⟨⟩⟩ := Option.map_eq_some_iff.1 hread
        exact within_list (h.items hitems)
  case h_6 =>
    cases depth with
    | zero => cases hread
    | succ depth =>
      dsimp only at hread
      split at hread
      · cases hread
        -- the empty object is that of no fields
        have hnone : ∀ f ∈ ([] : List (String × Json)), Within depth f.2 := by simp
        exact within_ofFields hnone
      · obtain ⟨p, hfields, ⟨⟩⟩ := Option.map_eq_some_iff.1 hread
        exact within_ofFields (h.fields hfields)
  case h_7 => exact within_number hread

lemma Bounded.items_succ (h : Bounded fuel) (hread : Json.items (fuel + 1) depth cs = some (xs, rest)) :
    ∀ x ∈ xs, Within depth x := by
  rw [Json.items] at hread
  cases hvalue : Json.value fuel depth cs with
  | none => simp [hvalue] at hread
  | some p =>
    have hfirst : Within depth p.1 := h.value hvalue
    simp only [hvalue] at hread
    split at hread
    · cases hread
      simpa using hfirst
    · obtain ⟨q, hitems, ⟨⟩⟩ := Option.map_eq_some_iff.1 hread
      exact List.forall_mem_cons.2 ⟨hfirst, h.items hitems⟩
    · cases hread

lemma Bounded.fields_succ (h : Bounded fuel) (hread : Json.fields (fuel + 1) depth cs = some (fs, rest)) :
    ∀ f ∈ fs, Within depth f.2 := by
  rw [Json.fields] at hread
  -- a quotation mark, a name, a colon, a value, and a brace or a comma
  split at hread
  case h_2 => cases hread
  split at hread
  case h_1 => cases hread
  split at hread
  case h_2 => cases hread
  split at hread
  case h_1 => cases hread
  rename_i v rest' hvalue
  have hfirst : Within depth v := h.value hvalue
  split at hread
  · cases hread
    simpa using hfirst
  · obtain ⟨q, hfields, ⟨⟩⟩ := Option.map_eq_some_iff.1 hread
    exact List.forall_mem_cons.2 ⟨hfirst, h.fields hfields⟩
  · cases hread

/-- Whatever is read is within bounds; the induction is on the fuel. -/
lemma bounded (fuel : ℕ) : Bounded fuel := by
  induction fuel with
  | zero =>
    constructor
    · exact fun h => by cases h
    · exact fun h => by cases h
    · exact fun h => by cases h
  | succ fuel ih =>
    -- the readers call one another with one fuel less
    exact ⟨ih.value_succ, ih.items_succ, ih.fields_succ⟩

/-- A value that is read keeps to the depth that the reader allows. -/
theorem within_of_parse? {s : String} (h : parse? s = some v) : Within nestingLimit v := by
  rw [parse?, parseNested?] at h
  split at h
  · rename_i hvalue
    split_ifs at h
    cases h
    exact (bounded _).value hvalue
  · cases h

/-- A value that is read is plain unless a floating-point number occurs in it. -/
theorem plain_of_parse? {s : String} (h : parse? s = some v) (hfree : v.FloatFree) : v.Plain :=
  ⟨exact_iff.2 ⟨hfree, (within_of_parse? h).regular⟩, (within_of_parse? h).depth_le⟩

end Json

end Flotilla
