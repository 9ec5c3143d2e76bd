/-!
# Sorted fields

A list of named values in ascending order of the names, each name once.  Equal fields are equal lists.
-/

namespace Flotilla

abbrev Fields (α : Type) := List (String × α)

namespace Fields

variable {α : Type}

/-- Puts a value under a name into sorted fields; a value of the same name is replaced. -/
def put (name : String) (value : α) : Fields α → Fields α
  | [] => [(name, value)]
  | (k, v) :: rest =>
    if name < k then (name, value) :: (k, v) :: rest
    else if name = k then (name, value) :: rest
    else (k, v) :: put name value rest

def replace (name : String) (value : α) : Fields α → Fields α
  | [] => []
  | (k, v) :: rest => if k = name then (k, value) :: rest else (k, v) :: replace name value rest

/-- Sorts named values; of two with one name the later one counts. -/
def ofList (fields : List (String × α)) : Fields α :=
  fields.foldl (fun sorted f => put f.1 f.2 sorted) []

theorem lookup_put_self (name : String) (value : α) (fields : Fields α) :
    (put name value fields).lookup name = some value := by
  induction fields with
  | nil => simp [put]
  | cons f rest ih =>
    obtain ⟨k, v⟩ := f
    simp only [put]
    split
    · simp
    · split
      · simp
      · rename_i hne
        simp [List.lookup_cons, beq_false_of_ne hne, ih]

theorem lookup_put_of_ne {name other : String} (h : other ≠ name) (value : α) (fields : Fields α) :
    (put name value fields).lookup other = fields.lookup other := by
  induction fields with
  | nil => simp [put, List.lookup_cons, beq_false_of_ne h]
  | cons f rest ih =>
    obtain ⟨k, v⟩ := f
    simp only [put]
    split
    · rw [List.lookup_cons, beq_false_of_ne h]
    · split
      · rename_i heq
        subst heq
        simp [List.lookup_cons, beq_false_of_ne h]
      · simp [List.lookup_cons, ih]

theorem lookup_replace_self {name : String} {old : α} {fields : Fields α}
    (h : fields.lookup name = some old) (value : α) : (replace name value fields).lookup name = some value := by
  induction fields with
  | nil => cases h
  | cons f rest ih =>
    obtain ⟨k, v⟩ := f
    simp only [replace]
    split
    · rename_i heq
      simp [heq]
    · rename_i hne
      have hkey : (name == k) = false := beq_false_of_ne (Ne.symm hne)
      rw [List.lookup_cons, hkey] at h
      rw [List.lookup_cons, hkey]
      exact ih h

theorem lookup_replace_of_ne {name other : String} (h : other ≠ name) (value : α) (fields : Fields α) :
    (replace name value fields).lookup other = fields.lookup other := by
  induction fields with
  | nil => rfl
  | cons f rest ih =>
    obtain ⟨k, v⟩ := f
    simp only [replace]
    split
    · rename_i heq
      simp [List.lookup_cons, heq, beq_false_of_ne h]
    · simp [List.lookup_cons, ih]

/-- Writing back what is there changes nothing. -/
theorem replace_eq_self {name : String} {value : α} {fields : Fields α}
    (h : fields.lookup name = some value) : replace name value fields = fields := by
  induction fields with
  | nil => rfl
  | cons f rest ih =>
    obtain ⟨k, v⟩ := f
    simp only [replace]
    split
    · rename_i heq
      simp only [heq, List.lookup_cons, beq_self_eq_true, Option.some.injEq] at h
      rw [h]
    · rename_i hne
      rw [List.lookup_cons, beq_false_of_ne (Ne.symm hne)] at h
      rw [ih h]

end Fields

end Flotilla
