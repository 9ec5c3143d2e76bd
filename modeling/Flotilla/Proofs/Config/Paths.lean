import Mathlib.Tactic.Common
import Flotilla.Config.Store

/-!
# Dotted keys

What a store holds under a key after a value was put under another one.  A key is the path of its segments,
and one key extends another by a dot exactly if its path extends the other's.  A value is read back under
its key, and inside of it under the extensions of the key; keys of which none is a prefix of the other do
not interfere.  Only a value on the way that is no table can stop a value from being put, and then no table
has been created either.
-/

namespace Flotilla

def Toml.IsTable : Toml → Prop
  | .table _ => True
  | _ => False

namespace Config

/-! ### Segments -/

/-- What stands between the dots of a key. -/
def pieces (cs : List Char) : List (List Char) := (splitDots cs).1 :: (splitDots cs).2

/-- A key is cut at its dots from the right, and its pieces from the left; both give the same. -/
lemma segments_eq_map (key : String) : segments key = (pieces key.toList).map String.ofList := rfl

@[simp] lemma pieces_nil : pieces [] = [[]] := rfl

lemma pieces_dot (cs : List Char) : pieces ('.' :: cs) = [] :: pieces cs := rfl

lemma pieces_cons_of_ne {c : Char} (h : c ≠ '.') (cs : List Char) :
    pieces (c :: cs) = (c :: (splitDots cs).1) :: (splitDots cs).2 := by
  simp only [pieces, splitDots, if_neg h]

lemma pieces_ne_nil (cs : List Char) : pieces cs ≠ [] := List.cons_ne_nil _ _

lemma segments_ne_nil (key : String) : segments key ≠ [] := by
  rw [segments_eq_map, Ne, List.map_eq_nil_iff]
  exact pieces_ne_nil _

/-- A dot ends a piece. -/
lemma pieces_append_dot (cs ds : List Char) : pieces (cs ++ '.' :: ds) = pieces cs ++ pieces ds := by
  induction cs with
  | nil => rw [List.nil_append, pieces_dot, pieces_nil, List.singleton_append]
  | cons c cs ih =>
    by_cases hc : c = '.'
    · rw [hc, List.cons_append, pieces_dot, pieces_dot, ih, List.cons_append]
    · obtain ⟨hfirst, hrest⟩ := List.cons.inj ih
      rw [List.cons_append, pieces_cons_of_ne hc, pieces_cons_of_ne hc, hfirst, hrest]
      rfl

/-- Between two pieces that follow each other stands a dot. -/
lemma exists_of_pieces_eq_append {cs : List Char} {front rest : List (List Char)}
    (h : pieces cs = front ++ rest) (hfront : front ≠ []) (hrest : rest ≠ []) :
    ∃ ps qs, cs = ps ++ '.' :: qs ∧ pieces ps = front ∧ pieces qs = rest := by
  induction cs generalizing front with
  | nil =>
    obtain ⟨_, hnil⟩ | ⟨hnil, _⟩ := List.append_eq_singleton_iff.1 h.symm
    · exact absurd ‹front = []› hfront
    · exact absurd ‹rest = []› hrest
  | cons c cs ih =>
    obtain ⟨first, front, rfl⟩ := List.exists_cons_of_ne_nil hfront
    by_cases hc : c = '.'
    · subst hc
      rw [pieces_dot, List.cons_append] at h
      obtain ⟨rfl, htail⟩ := List.cons.inj h
      cases front with
      | nil => exact ⟨[], cs, rfl, rfl, htail⟩
      | cons second front =>
        obtain ⟨ps, qs, rfl, hps, hqs⟩ := ih htail (List.cons_ne_nil _ _)
        exact ⟨'.' :: ps, qs, rfl, by rw [pieces_dot, hps], hqs⟩
    · -- the piece that the character begins goes on into the one of the induction hypothesis
      rw [pieces_cons_of_ne hc, List.cons_append] at h
      obtain ⟨rfl, htail⟩ := List.cons.inj h
      have hcs : pieces cs = ((splitDots cs).1 :: front) ++ rest := congrArg ((splitDots cs).1 :: ·) htail
      obtain ⟨ps, qs, rfl, hps, hqs⟩ := ih hcs (List.cons_ne_nil _ _)
      obtain ⟨hfirst, hsecond⟩ := List.cons.inj hps
      exact ⟨c :: ps, qs, rfl, by rw [pieces_cons_of_ne hc, hfirst, hsecond], hqs⟩

/-- The segments of a key that is extended by another one. -/
lemma segments_extend (key rest : String) : segments (key ++ "." ++ rest) = segments key ++ segments rest := by
  have hchars : (key ++ "." ++ rest).toList = key.toList ++ '.' :: rest.toList := by
    simp [String.toList_append]
  rw [segments_eq_map, segments_eq_map, segments_eq_map, hchars, pieces_append_dot, List.map_append]

/-- A path that goes on belongs to a key that is extended. -/
lemma segments_eq_append_iff {key : String} {front rest : List String} (hfront : front ≠ [])
    (hrest : rest ≠ []) :
    segments key = front ++ rest ↔
      ∃ p q, key = p ++ "." ++ q ∧ segments p = front ∧ segments q = rest := by
  constructor
  · intro h
    rw [segments_eq_map, List.map_eq_append_iff] at h
    obtain ⟨ps, qs, hpieces, rfl, rfl⟩ := h
    obtain ⟨cs, ds, hkey, rfl, rfl⟩ := exists_of_pieces_eq_append hpieces
      (mt List.map_eq_nil_iff.2 hfront) (mt List.map_eq_nil_iff.2 hrest)
    refine ⟨.ofList cs, .ofList ds, ?_, by simp [segments_eq_map], by simp [segments_eq_map]⟩
    apply String.toList_injective
    simp [hkey, String.toList_append]
  · rintro ⟨p, q, rfl, rfl, rfl⟩
    exact segments_extend p q

/-! ### Looking up along a path -/

@[simp] lemma lookup_nil (v : Toml) : lookup [] v = some v := rfl

@[simp] lemma lookup_cons_table (s : String) (path : List String) (entries : List (String × Toml)) :
    lookup (s :: path) (.table entries) = (entries.lookup s).bind (lookup path) := rfl

/-- Nothing is found below a value that is no table. -/
lemma lookup_cons_of_not_isTable {v : Toml} (h : ¬ v.IsTable) (s : String) (path : List String) :
    lookup (s :: path) v = none := by
  cases v with
  | table => exact absurd trivial h
  | _ => rfl

lemma lookup_table_nil {path : List String} (h : path ≠ []) : lookup path (.table []) = none := by
  obtain ⟨s, path, rfl⟩ := List.exists_cons_of_ne_nil h
  rfl

/-- A path is followed piece by piece. -/
lemma lookup_append (front rest : List String) (v : Toml) :
    lookup (front ++ rest) v = (lookup front v).bind (lookup rest) := by
  induction front generalizing v with
  | nil => rfl
  | cons s front ih =>
    simp only [List.cons_append, lookup, Option.bind_assoc]
    exact Option.bind_congr fun w _ => ih w

/-! ### Obstacles -/

/-- The path leads to a value that is no table, and goes on behind it. -/
def Obstructs (obstacle : Toml) (path : List String) (v : Toml) : Prop :=
  ∃ front rest, path = front ++ rest ∧ rest ≠ [] ∧ lookup front v = some obstacle ∧ ¬ obstacle.IsTable

variable {obstacle v : Toml} {s : String} {path : List String} {entries : List (String × Toml)}

lemma not_obstructs_nil : ¬ Obstructs obstacle [] v := by
  rintro ⟨front, rest, hpath, hrest, -⟩
  exact hrest (List.append_eq_nil_iff.1 hpath.symm).2

/-- An obstacle below a table is one below an entry of it. -/
lemma obstructs_cons_table :
    Obstructs obstacle (s :: path) (.table entries) ↔
      ∃ w, entries.lookup s = some w ∧ Obstructs obstacle path w := by
  constructor
  · rintro ⟨front, rest, hpath, hrest, hlookup, htable⟩
    cases front with
    | nil =>
      cases hlookup
      exact absurd trivial htable
    | cons t front =>
      obtain ⟨rfl, rfl⟩ := List.cons.inj hpath
      obtain ⟨w, hw, hlookup⟩ := Option.bind_eq_some_iff.1 hlookup
      exact ⟨w, hw, front, rest, rfl, hrest, hlookup, htable⟩
  · rintro ⟨w, hw, front, rest, rfl, hrest, hlookup, htable⟩
    exact ⟨s :: front, rest, rfl, hrest, by rw [lookup_cons_table, hw]; exact hlookup, htable⟩

/-- A value that is no table obstructs every path that goes on behind it, and nothing else does. -/
lemma obstructs_iff_of_not_isTable (h : ¬ v.IsTable) (hpath : path ≠ []) :
    Obstructs obstacle path v ↔ obstacle = v := by
  constructor
  · rintro ⟨front, rest, -, -, hlookup, -⟩
    cases front with
    | nil => exact (Option.some.inj hlookup).symm
    | cons t front =>
      rw [lookup_cons_of_not_isTable h] at hlookup
      cases hlookup
  · rintro rfl
    exact ⟨[], path, rfl, hpath, rfl, h⟩

lemma not_obstructs_table_nil : ¬ Obstructs obstacle path (.table []) := by
  cases path with
  | nil => exact not_obstructs_nil
  | cons s path =>
    rw [obstructs_cons_table]
    rintro ⟨w, hw, -⟩
    cases hw

/-! ### Putting a value at the end of a path -/

/-- What stops a value is an obstacle on its path. -/
lemma snd_place_eq_some_iff :
    (place v path entries).2 = some obstacle ↔ Obstructs obstacle path (.table entries) := by
  fun_induction place v path entries with
  | case1 entries => exact iff_of_false (by simp) not_obstructs_nil
  | case2 last entries =>
    refine iff_of_false (by simp) ?_
    rw [obstructs_cons_table]
    rintro ⟨w, -, hw⟩
    exact not_obstructs_nil hw
  | case3 s path entries hpath hnone inner stop hplace ih =>
    rw [hplace] at ih
    rw [ih, obstructs_cons_table, hnone]
    exact iff_of_false not_obstructs_table_nil (by simp)
  | case4 s path entries hpath old hold inner stop hplace ih =>
    rw [hplace] at ih
    rw [ih, obstructs_cons_table, hold]
    simp
  | case5 s path entries hpath other hother hsome =>
    have htable : ¬ other.IsTable := by
      cases other with
      | table inner => exact absurd rfl (hother inner)
      | _ => exact id
    rw [obstructs_cons_table, hsome]
    simp only [Option.some.injEq, exists_eq_left', obstructs_iff_of_not_isTable htable hpath]
    exact eq_comm

/-- A value that stops another one leaves the entries as they were. -/
lemma fst_place_of_obstacle (h : (place v path entries).2 = some obstacle) :
    (place v path entries).1 = entries := by
  fun_induction place v path entries with
  | case1 entries => rfl
  | case2 last entries => cases h
  | case3 s path entries hpath hnone inner stop hplace ih =>
    rw [show stop = (place v path []).2 by rw [hplace], snd_place_eq_some_iff] at h
    exact absurd h not_obstructs_table_nil
  | case4 s path entries hpath old hold inner stop hplace ih =>
    rw [hplace] at ih
    obtain rfl : inner = old := ih h
    exact Fields.replace_eq_self hold
  | case5 s path entries hpath other hother hsome => rfl

/-- A value that was put at the end of a path is found there. -/
lemma lookup_place_self (hpath : path ≠ []) (h : (place v path entries).2 = none) :
    lookup path (.table (place v path entries).1) = some v := by
  fun_induction place v path entries with
  | case1 entries => exact absurd rfl hpath
  | case2 last entries => rw [lookup_cons_table, Fields.lookup_put_self, Option.bind_some, lookup_nil]
  | case3 s path entries hne hnone inner stop hplace ih =>
    rw [hplace] at ih
    rw [lookup_cons_table, Fields.lookup_put_self]
    exact ih hne h
  | case4 s path entries hne old hold inner stop hplace ih =>
    rw [hplace] at ih
    rw [lookup_cons_table, Fields.lookup_replace_self hold]
    exact ih hne h
  | case5 s path entries hne other hother hsome => cases h

/-- Tables that differ under one key at most agree on a path if they agree on it behind this key. -/
lemma lookup_table_eq {entries' : List (String × Toml)} {other : List String} (hother : other ≠ [])
    (hne : ∀ t, t ≠ s → entries'.lookup t = entries.lookup t)
    (hself : ∀ rest, other = s :: rest →
      (entries'.lookup s).bind (lookup rest) = (entries.lookup s).bind (lookup rest)) :
    lookup other (.table entries') = lookup other (.table entries) := by
  obtain ⟨t, rest, rfl⟩ := List.exists_cons_of_ne_nil hother
  rw [lookup_cons_table, lookup_cons_table]
  by_cases hts : t = s
  · subst hts
    exact hself rest rfl
  · rw [hne t hts]

/-- What stands at the end of another path stays, unless one path leads through the end of the other. -/
lemma lookup_place_of_not_isPrefix {other : List String} (hpath : ¬ path <+: other)
    (hother : ¬ other <+: path) :
    lookup other (.table (place v path entries).1) = lookup other (.table entries) := by
  have hnil : other ≠ [] := by
    rintro rfl
    exact hother List.nil_prefix
  fun_induction place v path entries generalizing other with
  | case1 entries => exact absurd List.nil_prefix hpath
  | case2 last entries =>
    refine lookup_table_eq hnil (fun t ht => Fields.lookup_put_of_ne ht v entries) fun rest hrest => ?_
    exact absurd (hrest ▸ List.cons_prefix_cons.2 ⟨rfl, List.nil_prefix⟩) hpath
  | case3 s path entries hne hnone inner stop hplace ih =>
    rw [hplace] at ih
    refine lookup_table_eq hnil (fun t ht => Fields.lookup_put_of_ne ht _ entries) fun rest hrest => ?_
    subst hrest
    rw [List.cons_prefix_cons, not_and] at hpath hother
    have hrest : rest ≠ [] := fun hrest => hother rfl (hrest ▸ List.nil_prefix)
    rw [Fields.lookup_put_self, hnone, Option.bind_some, Option.bind_none,
      ih (hpath rfl) (hother rfl) hrest, lookup_table_nil hrest]
  | case4 s path entries hne old hold inner stop hplace ih =>
    rw [hplace] at ih
    refine lookup_table_eq hnil (fun t ht => Fields.lookup_replace_of_ne ht _ entries) fun rest hrest => ?_
    subst hrest
    rw [List.cons_prefix_cons, not_and] at hpath hother
    have hrest : rest ≠ [] := fun hrest => hother rfl (hrest ▸ List.nil_prefix)
    rw [Fields.lookup_replace_self hold, hold, Option.bind_some, Option.bind_some,
      ih (hpath rfl) (hother rfl) hrest]
  | case5 s path entries hne found hfound hsome => rfl

end Config

namespace Store

open Config (segments)

variable (s : Store) (key : String) (v : Toml)

/-! ### Keys of a store -/

/-- A key with a dot is looked up in what stands under the part before it. -/
lemma get?_extend (front rest : String) :
    s.get? (front ++ "." ++ rest) = (s.get? front).bind (Config.lookup (segments rest)) := by
  rw [get?, get?, Config.segments_extend, Config.lookup_append]

/-- A value is an obstacle on the path of a key if it stands under a key that this one extends. -/
lemma obstructs_segments_iff {obstacle : Toml} :
    Config.Obstructs obstacle (segments key) (.table s.entries) ↔
      ∃ front rest, key = front ++ "." ++ rest ∧ s.get? front = some obstacle ∧ ¬ obstacle.IsTable := by
  constructor
  · rintro ⟨front, rest, hsegments, hrest, hlookup, htable⟩
    have hfront : front ≠ [] := by
      rintro rfl
      cases hlookup
      exact htable trivial
    obtain ⟨p, q, hkey, rfl, rfl⟩ := (Config.segments_eq_append_iff hfront hrest).1 hsegments
    exact ⟨p, q, hkey, hlookup, htable⟩
  · rintro ⟨p, q, rfl, hget, htable⟩
    exact ⟨segments p, segments q, Config.segments_extend p q, Config.segments_ne_nil q, hget, htable⟩

variable {s key v}

lemma set_eq :
    s.set key v =
      ({ s with entries := (Config.place v (segments key) s.entries).1 },
        (Config.place v (segments key) s.entries).2.elim (.ok ())
          fun obstacle => .error (.wrongKind key "table" obstacle.kindName)) := by
  rw [set]
  split <;> (rename_i hplace; rw [hplace]; rfl)

/-- A value that is set has met nothing on its path that is not a table. -/
lemma place_eq_none_of_set (h : (s.set key v).2 = .ok ()) :
    (Config.place v (segments key) s.entries).2 = none := by
  cases hplace : (Config.place v (segments key) s.entries).2 with
  | none => rfl
  | some obstacle =>
    rw [set_eq, hplace] at h
    cases h

/-- Putting a value under a key fails exactly with an obstacle on the path of the key. -/
lemma set_eq_error_iff {fault : ConfigError} :
    (s.set key v).2 = .error fault ↔
      ∃ obstacle, Config.Obstructs obstacle (segments key) (.table s.entries) ∧
        fault = .wrongKind key "table" obstacle.kindName := by
  simp only [← Config.snd_place_eq_some_iff (v := v), set_eq]
  cases (Config.place v (segments key) s.entries).2 <;> simp [eq_comm]

/-- A value that cannot be put under a key leaves the store as it was. -/
lemma fst_set_of_ne_ok (h : (s.set key v).2 ≠ .ok ()) : (s.set key v).1 = s := by
  rw [set_eq]
  cases hplace : (Config.place v (segments key) s.entries).2 with
  | none =>
    rw [set_eq, hplace] at h
    exact absurd rfl h
  | some obstacle => rw [Config.fst_place_of_obstacle hplace]

/-- A value that was put under a key is read back under it. -/
lemma get?_set_self (h : (s.set key v).2 = .ok ()) : (s.set key v).1.get? key = some v := by
  rw [set_eq, get?]
  exact Config.lookup_place_self (Config.segments_ne_nil key) (place_eq_none_of_set h)

/-- What stands under another key stays, unless one path leads through the end of the other. -/
lemma get?_set_of_not_isPrefix {other : String} (hkey : ¬ segments key <+: segments other)
    (hother : ¬ segments other <+: segments key) : (s.set key v).1.get? other = s.get? other := by
  rw [set_eq, get?, get?]
  exact Config.lookup_place_of_not_isPrefix hkey hother

/-- A value that is put under a key is read back under it, and inside of it under the extensions of the key;
keys of which none is a prefix of the other do not interfere, and the backing stays.  It fails exactly if the
key extends one that holds a value that is no table, and then the store is as it was. -/
theorem set_laws (s : Store) (key : String) (v : Toml) :
    ((s.set key v).2 = .ok () →
      (s.set key v).1.get? key = some v ∧
      (∀ rest, (s.set key v).1.get? (key ++ "." ++ rest) = Config.lookup (segments rest) v) ∧
      ∀ other, ¬ segments key <+: segments other → ¬ segments other <+: segments key →
        (s.set key v).1.get? other = s.get? other) ∧
    (∀ fault, (s.set key v).2 = .error fault ↔
      ∃ front rest obstacle, key = front ++ "." ++ rest ∧ s.get? front = some obstacle ∧
        ¬ obstacle.IsTable ∧ fault = .wrongKind key "table" obstacle.kindName) ∧
    ((s.set key v).2 ≠ .ok () → (s.set key v).1 = s) ∧
    (s.set key v).1.backing = s.backing := by
  refine ⟨fun h => ⟨get?_set_self h, fun rest => ?_, fun _ => get?_set_of_not_isPrefix⟩, fun fault => ?_,
    fst_set_of_ne_ok, by rw [set_eq]⟩
  · rw [get?_extend, get?_set_self h, Option.bind_some]
  · rw [set_eq_error_iff]
    constructor
    · rintro ⟨obstacle, hobstacle, rfl⟩
      obtain ⟨front, rest, hkey, hget, htable⟩ := (obstructs_segments_iff s key).1 hobstacle
      exact ⟨front, rest, obstacle, hkey, hget, htable, rfl⟩
    · rintro ⟨front, rest, obstacle, hkey, hget, htable, rfl⟩
      exact ⟨obstacle, (obstructs_segments_iff s key).2 ⟨front, rest, hkey, hget, htable⟩, rfl⟩

/-- In an empty store a number can be put under a key with a table on the way, which is created; behind the
number nothing can be put. -/
theorem set_below_number :
    let s := ((⟨[], .memory⟩ : Store).set "a.b" (.int 5)).1
    ((⟨[], .memory⟩ : Store).set "a.b" (.int 5)).2 = .ok () ∧ s.get? "a.b" = some (.int 5) ∧
      (s.set "a.b.c" (.int 1)).2 = .error (.wrongKind "a.b.c" "table" "integer") := by
  have hok : ((⟨[], .memory⟩ : Store).set "a.b" (.int 5)).2 = .ok () := by rfl
  obtain ⟨hself, -⟩ := (set_laws ⟨[], .memory⟩ "a.b" (.int 5)).1 hok
  exact ⟨hok, hself, ((set_laws _ "a.b.c" (.int 1)).2.1 _).2 ⟨"a.b", "c", .int 5, rfl, hself, id, rfl⟩⟩

end Store

end Flotilla
