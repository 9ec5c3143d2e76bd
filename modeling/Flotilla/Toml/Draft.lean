import Flotilla.Toml.Literal

/-!
# Tables under construction

While a document is read, a table remembers how it came about: written out by a header or in braces,
by the segments of a dotted key, or only as the parent of another one.  The rules that forbid to define
a table twice depend on it.  Its entries stand in the order in which they were made, for the first of
them may say that the table writes a moment.
-/

namespace Flotilla.Toml

/-- A value without parts, a list, a table in braces, a table with its entries, or a list of tables that
may still grow. -/
inductive Draft where
  | value (v : Toml)
  | list (xs : List Draft)
  | closed (entries : List (String × Draft))
  | table (implicit dotted : Bool) (entries : List (String × Draft))
  | tables (ts : List Draft)
  deriving Inhabited

namespace Draft

/-- A table that was written out. -/
def blank : Draft := .table false false []

/-- Puts a draft under a key: in the place of the one that is there, or else at the end. -/
def put (key : String) (d : Draft) : List (String × Draft) → List (String × Draft)
  | [] => [(key, d)]
  | e :: es => if e.1 = key then (key, d) :: es else e :: put key d es

/-- A table below the document whose first key is this one writes the moment in the text under it. -/
def momentKey : String := "$__toml_private_datetime"

/-- The moment in a text. -/
def writtenMoment? : Draft → Option Toml
  | .value (.text s) => (momentOfText? s).map .moment
  | _ => none

mutual

def finish? : Draft → Option Toml
  | .value v => some v
  | .list xs => (finishAll? xs).map .list
  | .closed entries => finishTable? entries
  | .table _ _ entries => finishTable? entries
  | .tables ts => (finishAll? ts).map .list

def finishTable? : List (String × Draft) → Option Toml
  | [] => some (.table [])
  | e :: es =>
    if e.1 = momentKey then writtenMoment? e.2
    else do return .table (Fields.ofList ((← finishEntry? e) :: (← finishEntries? es)))

def finishEntries? : List (String × Draft) → Option (List (String × Toml))
  | [] => some []
  | e :: es => do return (← finishEntry? e) :: (← finishEntries? es)

def finishEntry? : String × Draft → Option (String × Toml)
  | (k, d) => (finish? d).map (k, ·)

def finishAll? : List Draft → Option (List Toml)
  | [] => some []
  | t :: ts => do return (← finish? t) :: (← finishAll? ts)

end

/-- Changes the table at the end of a path.  Missing tables on the way are created; of a list of tables
the last one is meant.  A dotted key (`dotted`) does not reach into a table that was written out. -/
def within (dotted : Bool) : List String → (Draft → Option Draft) → Draft → Option Draft
  | [], f, t => f t
  | k :: ks, f, .table i d entries =>
    match entries.lookup k with
    | none => do
      return .table i d (put k (← within dotted ks f (.table true dotted [])) entries)
    | some (.tables ts) => do
      let last ← ts.getLast?
      return .table i d (put k (.tables (ts.dropLast ++ [← within dotted ks f last])) entries)
    | some (.table i' d' entries') =>
      if dotted && !i' then none
      else do
        return .table i d (put k (← within dotted ks f (.table i' d' entries')) entries)
    | some _ => none
  | _ :: _, _, _ => none

/-- The table at the end of a path, as far as it is there. -/
def find? : List String → Draft → Option Draft
  | [], t => some t
  | k :: ks, .table _ _ entries =>
    match entries.lookup k with
    | some (.tables ts) =>
      match ts.getLast? with
      | some last => find? ks last
      | none => none
    | some t => find? ks t
    | none => none
  | _ :: _, _ => none

/-- Enters a value under a dotted key, given as the segments before the last one and the last one. -/
def define (path : List String) (key : String) (v : Draft) : Draft → Option Draft :=
  within true path fun
    | .table i d entries =>
      if d = path.isEmpty then none
      else if (entries.lookup key).isSome then none
      else some (.table i d (put key v entries))
    | _ => none

/-- The table in braces with these entries, given by dotted keys. -/
def ofEntries? (entries : List (List String × String × Draft)) : Option Draft := do
  match ← entries.foldlM (fun t e => define e.1 e.2.1 e.2.2 t) blank with
  | .table _ _ entries => return .closed entries
  | _ => none

end Draft

/-! ### Documents -/

/-- A line of a document that says something. -/
inductive Statement where
  | entry (path : List String) (key : String) (v : Draft)
  | header (path : List String) (key : String)
  | listHeader (path : List String) (key : String)

/-- A document under construction: all that is finished, and the table that entries go to. -/
structure Assembly where
  root : Draft
  current : Draft
  /-- Where the current table belongs; nothing means that it is the document itself. -/
  place : Option (List String × String)
  /-- The current table is the next one of a list. -/
  inList : Bool

namespace Assembly

def empty : Assembly := ⟨.blank, .blank, none, false⟩

/-- Puts the current table where it belongs. -/
def close (a : Assembly) : Option Draft :=
  match a.place with
  | none => some a.current
  | some (path, key) =>
    a.root.within false path fun
      | .table i d entries =>
        if a.inList then
          match entries.lookup key with
          | none => some (.table i d (Draft.put key (.tables [a.current]) entries))
          | some (.tables ts) =>
            some (.table i d (Draft.put key (.tables (ts ++ [a.current])) entries))
          | some _ => none
        else some (.table i d (Draft.put key a.current entries))
      | _ => none

/-- Takes the draft under a key out of the table at the end of a path. -/
def remove (path : List String) (key : String) : Draft → Option Draft :=
  Draft.within false path fun
    | .table i d entries => some (.table i d (entries.filter (·.1 != key)))
    | _ => none

/-- Starts a table.  It may be there already as the parent of another one, but not otherwise; then it
moves to the end. -/
def openTable (a : Assembly) (path : List String) (key : String) : Option Assembly := do
  let root ← a.close
  let root ← root.within false path some
  match ← root.find? path with
  | .table _ _ entries =>
    match entries.lookup key with
    | none => return ⟨root, .blank, some (path, key), false⟩
    | some (.table true false entries) =>
      return ⟨← remove path key root, .table false false entries, some (path, key), false⟩
    | some _ => none
  | _ => none

def openListTable (a : Assembly) (path : List String) (key : String) : Option Assembly := do
  let root ← a.close
  let root ← root.within false path some
  match ← root.find? path with
  | .table _ _ entries =>
    match entries.lookup key with
    | none | some (.tables _) => return ⟨root, .blank, some (path, key), true⟩
    | some _ => none
  | _ => none

def add (a : Assembly) : Statement → Option Assembly
  | .entry path key v => (Draft.define path key v a.current).map fun t => { a with current := t }
  | .header path key => a.openTable path key
  | .listHeader path key => a.openListTable path key

end Assembly

/-- The entries of the document that the statements write. -/
def assemble? (statements : List Statement) : Option (List (String × Toml)) := do
  let a ← statements.foldlM Assembly.add .empty
  match ← a.close with
  | .table _ _ entries => return Fields.ofList (← Draft.finishEntries? entries)
  | _ => none

end Flotilla.Toml
