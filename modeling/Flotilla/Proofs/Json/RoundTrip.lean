import Mathlib.Data.List.Induction
import Mathlib.Data.List.TakeDrop
import Mathlib.Tactic.Common
import Flotilla.Json.Parser
import Flotilla.Json.Printer

/-!
# A value is read as it was written

The text of a value without floating-point numbers writes this value, as long as its lists and objects are
nested no deeper than a reader allows.
-/

namespace Flotilla

/-! ### Sorted fields -/

namespace Fields

variable {α : Type}

/-- A field with the greatest name is put at the end. -/
lemma put_of_lt {name : String} {fields : Fields α} (value : α) (h : ∀ f ∈ fields, f.1 < name) :
    put name value fields = fields ++ [(name, value)] := by
  induction fields with
  | nil => rfl
  | cons f rest ih =>
    have hlt : f.1 < name := h f List.mem_cons_self
    have hne : ¬ name = f.1 := fun heq => String.lt_irrefl name (by rwa [← heq] at hlt)
    rw [put, if_neg (String.lt_asymm hlt), if_neg hne,
      ih fun g hg => h g (List.mem_cons_of_mem _ hg)]
    rfl

/-- Fields that are sorted stay as they are. -/
lemma ofList_of_pairwise {fields : List (String × α)} (h : fields.Pairwise (·.1 < ·.1)) :
    ofList fields = fields := by
  induction fields using List.reverseRecOn with
  | nil => rfl
  | append_singleton fields f ih =>
    obtain ⟨hfields, -, hlt⟩ := List.pairwise_append.1 h
    have hput := put_of_lt f.2 fun g hg => hlt g hg f (List.mem_singleton_self f)
    rw [ofList, List.foldl_append, ← ofList, ih hfields]
    exact hput

end Fields

namespace Json

lemma lt_of_ascending {f : String × Json} {rest : List (String × Json)} (h : Ascending (f :: rest)) :
    ∀ g ∈ rest, f.1 < g.1 := by
  induction rest generalizing f with
  | nil => simp
  | cons g rest ih =>
    obtain ⟨hlt, hrest⟩ := h
    intro g' hg'
    rcases List.mem_cons.1 hg' with rfl | hmem
    · exact hlt
    · exact String.lt_trans hlt (ih hrest g' hmem)

lemma pairwise_of_ascending {fields : List (String × Json)} (h : Ascending fields) :
    fields.Pairwise (·.1 < ·.1) := by
  induction fields with
  | nil => exact .nil
  | cons f rest ih =>
    refine List.pairwise_cons.2 ⟨lt_of_ascending h, ih ?_⟩
    cases rest with
    | nil => trivial
    | cons g rest => exact h.2

/-- Fields that are already in order make the object that they stand for. -/
lemma ofFields_of_ascending {fields : List (String × Json)} (h : Ascending fields) :
    ofFields fields = .object fields := by
  rw [ofFields, Fields.ofList_of_pairwise (pairwise_of_ascending h)]

/-! ### Characters after a value -/

/-- What follows a value inside a text: nothing, a comma, or a closing bracket or brace. -/
def Follows : List Char → Prop
  | [] => True
  | c :: _ => c = ',' ∨ c = ']' ∨ c = '\x7d'

lemma skipBlanks_cons {c : Char} (cs : List Char) (h : isBlank c = false) :
    skipBlanks (c :: cs) = c :: cs := by
  simp [skipBlanks, h]

/-! ### Numbers -/

/-- Digits are read to their end, and not further. -/
lemma spanDigits_append {ds rest : List Char} (hds : ∀ c ∈ ds, c.isDigit = true) (h : Follows rest) :
    spanDigits (ds ++ rest) = (ds, rest) := by
  have hrest : rest.takeWhile (·.isDigit) = [] ∧ rest.dropWhile (·.isDigit) = rest := by
    cases rest with
    | nil => exact ⟨rfl, rfl⟩
    | cons c cs => rcases h with rfl | rfl | rfl <;> exact ⟨rfl, rfl⟩
  rw [spanDigits, List.span_eq_takeWhile_dropWhile, List.takeWhile_append_of_pos hds,
    List.dropWhile_append_of_pos hds, hrest.1, hrest.2, List.append_nil]

/-- Digits are read onto a significand as long as the result is in range. -/
lemma accumulate_eq {n : ℕ} {ds : List Char} (h : Nat.ofDigitChars 10 ds n ≤ maxSignificand) :
    accumulate n ds = (Nat.ofDigitChars 10 ds n, 0) := by
  induction ds generalizing n with
  | nil => rfl
  | cons c ds ih =>
    rw [Nat.ofDigitChars_cons] at h ⊢
    have hgrows : ∀ (cs : List Char) (m : ℕ), m ≤ Nat.ofDigitChars 10 cs m := by
      intro cs
      induction cs with
      | nil => exact fun m => Nat.le_refl m
      | cons d cs ih =>
        intro m
        rw [Nat.ofDigitChars_cons]
        exact Nat.le_trans (by omega) (ih _)
    have hsmall : ¬ 10 * n + (c.toNat - 48) > maxSignificand :=
      Nat.not_lt.2 (Nat.le_trans (hgrows ds _) h)
    rw [accumulate, if_neg hsmall]
    exact ih h

/-- A whole number ends where the digits end. -/
lemma numberTail_of_follows {negative : Bool} {whole rest : List Char} {n : ℕ}
    (hn : accumulate 0 whole = (n, 0)) (h : Follows rest) :
    numberTail negative whole rest = (withoutExponent negative true n 0).map (·, rest) := by
  simp only [numberTail, hn]
  cases rest with
  | nil => rfl
  | cons c cs => rcases h with rfl | rfl | rfl <;> rfl

/-- The digits of a whole number start with a zero only if there is no other digit. -/
lemma toDigits_ne_zero_cons (n : ℕ) (c : Char) (cs : List Char) :
    Nat.toDigits 10 n ≠ '0' :: c :: cs := by
  induction n using Nat.strongRecOn generalizing c cs with
  | ind n ih =>
    intro h
    by_cases hsmall : n < 10
    · rw [Nat.toDigits_of_lt_base hsmall] at h
      exact absurd (congrArg List.length h) (by simp)
    · have hlarge : 10 ≤ n := Nat.not_lt.1 hsmall
      rw [Nat.toDigits_of_base_le (by decide) hlarge] at h
      rcases List.append_eq_cons_iff.1 h with ⟨hnil, -⟩ | ⟨ds, hds, -⟩
      · exact Nat.toDigits_ne_nil hnil
      · cases ds with
        | nil =>
          have hzero : n / 10 = 0 := by
            rw [← @Nat.ofDigitChars_ten_toDigits (n / 10), hds]
            rfl
          omega
        | cons d ds => exact ih (n / 10) (by omega) d ds hds

lemma isDigit_of_mem_toDigits (n : ℕ) : ∀ c ∈ Nat.toDigits 10 n, c.isDigit = true := fun _ h =>
  Nat.isDigit_of_mem_toDigits (by decide) (by decide) h

/-- The sign of a number and the characters after it. -/
lemma number_eq {negative : Bool} {cs ds rest : List Char}
    (hsign : cs = '-' :: (ds ++ rest) ∧ negative = true ∨ cs = ds ++ rest ∧ negative = false)
    (hne : ds ≠ []) (hdigits : ∀ c ∈ ds, c.isDigit = true)
    (hzero : ∀ c cs, ds ≠ '0' :: c :: cs) (h : Follows rest) :
    number cs = numberTail negative ds rest := by
  have hspan := spanDigits_append hdigits h
  have hminus : ∀ r, ds ++ rest ≠ '-' :: r := by
    obtain ⟨c, cs, rfl⟩ := List.exists_cons_of_ne_nil hne
    rintro r heq
    cases heq
    exact absurd (hdigits '-' List.mem_cons_self) (by decide)
  unfold number
  split
  rename_i negative' cs' heq
  obtain ⟨rfl, rfl⟩ : negative' = negative ∧ cs' = ds ++ rest := by
    split at heq
    · rcases hsign with ⟨hcs, rfl⟩ | ⟨hcs, rfl⟩
      · cases heq
        exact ⟨rfl, (List.cons.inj hcs).2⟩
      · exact absurd hcs.symm (hminus _)
    · rename_i hplain
      rcases hsign with ⟨rfl, rfl⟩ | ⟨rfl, rfl⟩
      · exact absurd rfl (hplain _)
      · cases heq
        exact ⟨rfl, rfl⟩
  rw [hspan]
  split
  · rename_i heq
    exact absurd (congrArg Prod.fst heq) hne
  · rename_i heq
    exact absurd (congrArg Prod.fst heq) (hzero _ _)
  · rename_i heq
    cases heq
    rfl

/-- A whole number is read as it was written. -/
lemma number_printInt {n : Int} {rest : List Char} (hlow : minInt ≤ n) (hhigh : n ≤ maxInt)
    (h : Follows rest) : number (printInt n ++ rest) = some (.int n, rest) := by
  simp only [minInt, Word.minSigned, maxInt, Word.size64] at hlow hhigh
  have hrange : Nat.ofDigitChars 10 (Nat.toDigits 10 n.natAbs) 0 ≤ maxSignificand := by
    rw [Nat.ofDigitChars_ten_toDigits, maxSignificand, Word.size64]
    omega
  have hvalue := accumulate_eq hrange
  rw [Nat.ofDigitChars_ten_toDigits] at hvalue
  have hnumber {negative : Bool} {cs : List Char}
      (hsign : cs = '-' :: (Nat.toDigits 10 n.natAbs ++ rest) ∧ negative = true ∨
        cs = Nat.toDigits 10 n.natAbs ++ rest ∧ negative = false) :
      number cs = (withoutExponent negative true n.natAbs 0).map (·, rest) := by
    rw [number_eq hsign Nat.toDigits_ne_nil (isDigit_of_mem_toDigits _) (toDigits_ne_zero_cons _) h,
      numberTail_of_follows hvalue h]
  by_cases hneg : n < 0
  · have hread : withoutExponent true true n.natAbs 0 = some (.int n) := by
      have hnonzero : ¬ (n.natAbs = 0 ∨ (n.natAbs : Int) > Word.maxSigned + 1) := by
        rw [Word.maxSigned]
        omega
      have hint : -(n.natAbs : Int) = n := by omega
      rw [withoutExponent, if_neg (by decide), if_neg (by decide), if_neg hnonzero, hint]
    rw [printInt, if_pos hneg, List.cons_append, hnumber (.inl ⟨rfl, rfl⟩), hread]
    rfl
  · have hread : withoutExponent false true n.natAbs 0 = some (.int n) := by
      have hint : (n.natAbs : Int) = n := by omega
      rw [withoutExponent, if_neg (by decide), if_pos (by decide), hint]
    rw [printInt, if_neg hneg, hnumber (.inr ⟨rfl, rfl⟩), hread]
    rfl

/-! ### Texts -/

/-- The four digits that stand for a control character are read back. -/
lemma hexNumber?_control :
    ∀ n < 32, Text.hexNumber? ['0', '0', Text.hexDigit (n / 16), Text.hexDigit (n % 16)] = some n := by
  decide

/-- An escaped character is read as the character. -/
lemma textBody_escape (c : Char) (rest : List Char) :
    textBody (escape c ++ rest) = (textBody rest).map fun p => (c :: p.1, p.2) := by
  unfold escape
  split_ifs with hquote hslash hb ht hn hf hr hcontrol
  · subst hquote; simp [textBody, shortEscape?]
  · subst hslash; simp [textBody, shortEscape?]
  · subst hb; simp [textBody, shortEscape?]
  · subst ht; simp [textBody, shortEscape?]
  · subst hn; simp [textBody, shortEscape?]
  · subst hf; simp [textBody, shortEscape?]
  · subst hr; simp [textBody, shortEscape?]
  · have hhex := hexNumber?_control c.toNat hcontrol
    have hlow : isLowHalf c.toNat = false := by
      simp [isLowHalf]
      omega
    have hhigh : isHighHalf c.toNat = false := by
      simp [isHighHalf]
      omega
    simp only [List.cons_append, List.nil_append]
    rw [textBody]
    simp only [hhex, hlow, hhigh, Char.ofNat_toNat, Bool.false_eq_true, if_false]
  · simp only [List.cons_append, List.nil_append]
    have hplain : ¬ (c.toNat < 0x20 ∨ c = '\\') := by
      rintro (hlt | heq)
      · exact hcontrol hlt
      · exact hslash heq
    rw [textBody.eq_def]
    split
    · rename_i heq; cases heq
    · rename_i heq; cases heq; exact absurd rfl hquote
    · rename_i heq; cases heq; exact absurd rfl hslash
    · rename_i heq; cases heq; exact absurd rfl hslash
    · rename_i heq
      cases heq
      rw [if_neg hplain]

/-- An escaped text is read as the text, up to the quotation mark that ends it. -/
lemma textBody_flatMap_escape (cs rest : List Char) :
    textBody (cs.flatMap escape ++ '"' :: rest) = some (cs, rest) := by
  induction cs with
  | nil => simp [textBody]
  | cons c cs ih =>
    rw [List.flatMap_cons, List.append_assoc, textBody_escape, ih]
    rfl

/-- What is written between quotation marks is read back. -/
lemma textBody_toList (s : String) (rest : List Char) :
    textBody (s.toList.flatMap escape ++ '"' :: rest) = some (s.toList, rest) :=
  textBody_flatMap_escape s.toList rest

/-! ### Steps of a reader -/

variable {fuel depth : ℕ} {c : Char} {cs rest : List Char} {v : Json}

lemma value_of_number (h : c.isDigit = true ∨ c = '-') :
    value (fuel + 1) depth (c :: cs) = number (c :: cs) := by
  have hblank : isBlank c = false := by
    have hnone : ∀ b : Char, isBlank b = true → ¬ (b.isDigit = true ∨ b = '-') := by
      intro b hb
      simp only [isBlank, Bool.or_eq_true, beq_iff_eq] at hb
      rcases hb with ((rfl | rfl) | rfl) | rfl <;> decide
    exact Bool.eq_false_iff.2 fun hb => hnone c hb h
  rw [value, skipBlanks_cons cs hblank]
  split
  case h_7 => rfl
  all_goals
    rename_i heq
    cases heq
    exact absurd h (by decide)

/-- A text is read back. -/
lemma value_text (s : String) :
    value (fuel + 1) depth (printText s ++ rest) = some (.text s, rest) := by
  have htext : printText s ++ rest = '"' :: (s.toList.flatMap escape ++ '"' :: rest) := by
    simp [printText]
  rw [htext, value, skipBlanks_cons _ rfl]
  simp only [textBody_toList, Option.map_some, String.ofList_toList]

/-- A list that is not empty is read item by item. -/
lemma value_list (hblank : isBlank c = false) (hc : c ≠ ']') :
    value (fuel + 1) (depth + 1) ('[' :: c :: cs) =
      (items fuel depth (c :: cs)).map fun p => (.list p.1, p.2) := by
  rw [value, skipBlanks_cons _ rfl]
  simp only [skipBlanks_cons cs hblank]
  split
  · rename_i heq
    cases heq
    exact absurd rfl hc
  · rfl

lemma value_object :
    value (fuel + 1) (depth + 1) ('\x7b' :: '"' :: cs) =
      (fields fuel depth ('"' :: cs)).map fun p => (ofFields p.1, p.2) := by
  rw [value, skipBlanks_cons _ rfl]
  simp only [skipBlanks_cons cs (show isBlank '"' = false from rfl)]
  rfl

/-- The last item of a list is followed by a bracket. -/
lemma items_last (h : value fuel depth cs = some (v, ']' :: rest)) :
    items (fuel + 1) depth cs = some ([v], rest) := by
  rw [items, h]
  simp only [skipBlanks_cons rest (show isBlank ']' = false from rfl)]

lemma items_comma (h : value fuel depth cs = some (v, ',' :: rest)) :
    items (fuel + 1) depth cs = (items fuel depth rest).map fun p => (v :: p.1, p.2) := by
  rw [items, h]
  simp only [skipBlanks_cons rest (show isBlank ',' = false from rfl)]

lemma fields_last {name : String} (h : value fuel depth cs = some (v, '\x7d' :: rest)) :
    fields (fuel + 1) depth (printText name ++ ':' :: cs) = some ([(name, v)], rest) := by
  have htext : printText name ++ ':' :: cs =
      '"' :: (name.toList.flatMap escape ++ '"' :: (':' :: cs)) := by
    simp [printText]
  rw [htext, fields, skipBlanks_cons _ rfl]
  simp only [textBody_toList, skipBlanks_cons cs (show isBlank ':' = false from rfl), h,
    skipBlanks_cons rest (show isBlank '\x7d' = false from rfl), String.ofList_toList]

lemma fields_comma {name : String} (h : value fuel depth cs = some (v, ',' :: rest)) :
    fields (fuel + 1) depth (printText name ++ ':' :: cs) =
      (fields fuel depth rest).map fun p => ((name, v) :: p.1, p.2) := by
  have htext : printText name ++ ':' :: cs =
      '"' :: (name.toList.flatMap escape ++ '"' :: (':' :: cs)) := by
    simp [printText]
  rw [htext, fields, skipBlanks_cons _ rfl]
  simp only [textBody_toList, skipBlanks_cons cs (show isBlank ':' = false from rfl), h,
    skipBlanks_cons rest (show isBlank ',' = false from rfl), String.ofList_toList]

/-! ### Values -/

lemma exists_printInt_eq_cons (n : Int) :
    ∃ c cs, printInt n = c :: cs ∧ (c.isDigit = true ∨ c = '-') := by
  by_cases hneg : n < 0
  · exact ⟨'-', _, by rw [printInt, if_pos hneg], .inr rfl⟩
  · obtain ⟨c, cs, hds⟩ := List.exists_cons_of_ne_nil (@Nat.toDigits_ne_nil n.natAbs 10)
    refine ⟨c, cs, by rw [printInt, if_neg hneg, hds], .inl ?_⟩
    exact isDigit_of_mem_toDigits n.natAbs c (by simp [hds])

/-- The text of a value starts with a character that is no blank and no closing bracket. -/
lemma exists_print_eq_cons (h : v.Exact) : ∃ c cs, v.print = c :: cs ∧ isBlank c = false ∧ c ≠ ']' := by
  have hnumber : ∀ c : Char, isBlank c = true ∨ c = ']' → ¬ (c.isDigit = true ∨ c = '-') := by
    intro c hc
    simp only [isBlank, Bool.or_eq_true, beq_iff_eq] at hc
    rcases hc with (((rfl | rfl) | rfl) | rfl) | rfl <;> decide
  match v, h with
  | .null, _ => exact ⟨_, _, rfl, rfl, by decide⟩
  | .bool true, _ | .bool false, _ => exact ⟨_, _, rfl, rfl, by decide⟩
  | .int n, _ =>
    obtain ⟨c, cs, hprint, hc⟩ := exists_printInt_eq_cons n
    refine ⟨c, cs, hprint, Bool.eq_false_iff.2 fun hb => hnumber c (.inl hb) hc, ?_⟩
    exact fun hb => hnumber c (.inr hb) hc
  | .text s, _ => exact ⟨_, _, rfl, rfl, by decide⟩
  | .list [], _ | .list (_ :: _), _ => exact ⟨_, _, rfl, rfl, by decide⟩
  | .object [], _ | .object (_ :: _), _ => exact ⟨_, _, rfl, rfl, by decide⟩

/-- After an item no number goes on. -/
lemma follows_printItems (xs : List Json) (rest : List Char) : Follows (printItems xs ++ rest) := by
  cases xs with
  | nil => exact .inr (.inl rfl)
  | cons x xs => exact .inl rfl

lemma follows_printFields (fs : List (String × Json)) (rest : List Char) :
    Follows (printFields fs ++ rest) := by
  cases fs with
  | nil => exact .inr (.inr rfl)
  | cons f fs => exact .inl rfl

/-- With this much fuel, values, items and fields whose text is shorter are read as they were written. -/
structure Reads (fuel : ℕ) : Prop where
  value : ∀ {v : Json} {depth : ℕ} {rest : List Char}, v.Exact → v.depth ≤ depth →
    v.print.length < fuel → Follows rest → value fuel depth (v.print ++ rest) = some (v, rest)
  items : ∀ {x : Json} {xs : List Json} {depth : ℕ} {rest : List Char}, x.Exact → ExactItems xs →
    x.depth ≤ depth → depthItems xs ≤ depth → x.print.length + (printItems xs).length < fuel →
    items fuel depth (x.print ++ (printItems xs ++ rest)) = some (x :: xs, rest)
  fields : ∀ {k : String} {v : Json} {fs : List (String × Json)} {depth : ℕ} {rest : List Char},
    v.Exact → ExactFields fs → v.depth ≤ depth → depthFields fs ≤ depth →
    v.print.length + (printFields fs).length < fuel →
    fields fuel depth (printText k ++ ':' :: (v.print ++ (printFields fs ++ rest))) =
      some ((k, v) :: fs, rest)

/-- A value is read back if its parts are. -/
lemma Reads.value_succ (h : Reads fuel) (hexact : v.Exact) (hdepth : v.depth ≤ depth)
    (hfuel : v.print.length < fuel + 1) (hrest : Follows rest) :
    Json.value (fuel + 1) depth (v.print ++ rest) = some (v, rest) := by
  match v with
  | .null => simp [print, Json.value, skipBlanks, isBlank]
  | .bool true => simp [print, Json.value, skipBlanks, isBlank]
  | .bool false => simp [print, Json.value, skipBlanks, isBlank]
  | .int n =>
    obtain ⟨c, cs, hprint, hc⟩ := exists_printInt_eq_cons n
    have hnumber := number_printInt hexact.1 hexact.2 hrest
    rw [print]
    rw [hprint, List.cons_append] at hnumber ⊢
    rw [value_of_number hc, hnumber]
  | .text s => exact value_text s
  | .list xs =>
    obtain ⟨depth, rfl⟩ : ∃ n, depth = n + 1 := ⟨depth - 1, by simp [Json.depth] at hdepth; omega⟩
    match xs with
    | [] => simp [print, Json.value, skipBlanks, isBlank]
    | x :: xs =>
      obtain ⟨hx, hxs⟩ := hexact
      simp only [Json.depth, depthItems] at hdepth
      simp only [print, List.length_cons, List.length_append] at hfuel
      have hitems : Json.items fuel depth (x.print ++ (printItems xs ++ rest)) = some (x :: xs, rest) :=
        h.items hx hxs (by omega) (by omega) (by omega)
      have htext : print (.list (x :: xs)) ++ rest = '[' :: (x.print ++ (printItems xs ++ rest)) := by
        simp [print]
      obtain ⟨c, cs, hprint, hblank, hc⟩ := exists_print_eq_cons hx
      rw [htext]
      rw [hprint, List.cons_append] at hitems ⊢
      rw [value_list hblank hc, hitems]
      rfl
  | .object fs =>
    obtain ⟨depth, rfl⟩ : ∃ n, depth = n + 1 := ⟨depth - 1, by simp [Json.depth] at hdepth; omega⟩
    match fs with
    | [] => simp [print, Json.value, skipBlanks, isBlank]
    | (k, w) :: fs =>
      obtain ⟨hascending, hw, hfs⟩ := hexact
      simp only [Json.depth, depthFields, depthField] at hdepth
      simp only [print, printField, List.length_cons, List.length_append] at hfuel
      have hfields : Json.fields fuel depth
          (printText k ++ ':' :: (w.print ++ (printFields fs ++ rest))) = some ((k, w) :: fs, rest) :=
        h.fields hw hfs (by omega) (by omega) (by omega)
      have htext : print (.object ((k, w) :: fs)) ++ rest =
          '\x7b' :: (printText k ++ ':' :: (w.print ++ (printFields fs ++ rest))) := by
        simp [print, printField]
      rw [htext]
      rw [printText, List.cons_append, List.cons_append] at hfields ⊢
      rw [value_object, hfields, Option.map_some, ofFields_of_ascending hascending]

/-- The items of a list are read back if each of them is. -/
lemma Reads.items_succ (h : Reads fuel) {x : Json} {xs : List Json} (hx : x.Exact)
    (hxs : ExactItems xs) (hdepth : x.depth ≤ depth) (hdepths : depthItems xs ≤ depth)
    (hfuel : x.print.length + (printItems xs).length < fuel + 1) :
    Json.items (fuel + 1) depth (x.print ++ (printItems xs ++ rest)) = some (x :: xs, rest) := by
  match xs with
  | [] =>
    simp only [printItems, List.length_singleton] at hfuel
    exact items_last (h.value hx hdepth (by omega) (follows_printItems [] rest))
  | y :: ys =>
    obtain ⟨hy, hys⟩ := hxs
    simp only [depthItems] at hdepths
    simp only [printItems, List.length_cons, List.length_append] at hfuel
    have hvalue := h.value hx hdepth (by omega) (follows_printItems (y :: ys) rest)
    have hitems : Json.items fuel depth (y.print ++ (printItems ys ++ rest)) = some (y :: ys, rest) :=
      h.items hy hys (by omega) (by omega) (by omega)
    have htext : printItems (y :: ys) ++ rest = ',' :: (y.print ++ (printItems ys ++ rest)) := by
      simp [printItems]
    rw [htext] at hvalue ⊢
    rw [items_comma hvalue, hitems]
    rfl

/-- The fields of an object are read back if their values are. -/
lemma Reads.fields_succ (h : Reads fuel) {k : String} {fs : List (String × Json)} (hv : v.Exact)
    (hfs : ExactFields fs) (hdepth : v.depth ≤ depth) (hdepths : depthFields fs ≤ depth)
    (hfuel : v.print.length + (printFields fs).length < fuel + 1) :
    Json.fields (fuel + 1) depth (printText k ++ ':' :: (v.print ++ (printFields fs ++ rest))) =
      some ((k, v) :: fs, rest) := by
  match fs with
  | [] =>
    simp only [printFields, List.length_singleton] at hfuel
    exact fields_last (h.value hv hdepth (by omega) (follows_printFields [] rest))
  | (l, w) :: gs =>
    obtain ⟨hw, hgs⟩ := hfs
    simp only [depthFields, depthField] at hdepths
    simp only [printFields, printField, List.length_cons, List.length_append] at hfuel
    have hvalue := h.value hv hdepth (by omega) (follows_printFields ((l, w) :: gs) rest)
    have hfields : Json.fields fuel depth
        (printText l ++ ':' :: (w.print ++ (printFields gs ++ rest))) = some ((l, w) :: gs, rest) :=
      h.fields hw hgs (by omega) (by omega) (by omega)
    have htext : printFields ((l, w) :: gs) ++ rest =
        ',' :: (printText l ++ ':' :: (w.print ++ (printFields gs ++ rest))) := by
      simp [printFields, printField]
    rw [htext] at hvalue ⊢
    rw [fields_comma hvalue, hfields]
    rfl

/-- Exact values are read back if the fuel lasts; the induction is on the fuel. -/
lemma reads (fuel : ℕ) : Reads fuel := by
  induction fuel with
  | zero =>
    constructor
    · exact fun _ _ hfuel => absurd hfuel (Nat.not_lt_zero _)
    · exact fun _ _ _ _ hfuel => absurd hfuel (Nat.not_lt_zero _)
    · exact fun _ _ _ _ hfuel => absurd hfuel (Nat.not_lt_zero _)
  | succ fuel ih =>
    -- the readers call one another with one fuel less
    exact ⟨ih.value_succ, ih.items_succ, ih.fields_succ⟩

/-- A value without floating-point numbers whose lists and objects are nested no deeper than a reader
allows. -/
def Plain (v : Json) : Prop := v.Exact ∧ v.depth ≤ nestingLimit

/-- The text of a plain value is read as the value. -/
theorem parse?_render (h : v.Plain) : parse? v.render = some v := by
  have hvalue := (reads (v.print.length + 1)).value h.1 h.2 (Nat.lt_succ_self _)
    (show Follows [] from trivial)
  rw [List.append_nil] at hvalue
  simp only [parse?, parseNested?, render, String.toList_ofList, hvalue]
  rfl

lemma render_ne_empty (h : v.Exact) : v.render ≠ "" := by
  obtain ⟨c, cs, hprint, -⟩ := exists_print_eq_cons h
  intro hempty
  have hnil := congrArg String.toList hempty
  rw [render, String.toList_ofList, hprint] at hnil
  cases hnil

end Json

end Flotilla
