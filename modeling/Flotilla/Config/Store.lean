import Flotilla.Config.Error
import Flotilla.Roster
import Flotilla.Toml.Parser
import Flotilla.Toml.Printer

/-!
# Configuration stores

A store holds the entries of a TOML document, addressed by dotted keys, and may be backed by a file.
The segments of a key are what stands between its dots, and may be empty.
-/

namespace Flotilla

/-! ### Paths -/

namespace Config

/-- What stands between the dots of a key, which is read from the right; the first segment is apart. -/
def splitDots : List Char → List Char × List (List Char)
  | [] => ([], [])
  | c :: cs =>
    let (first, rest) := splitDots cs
    if c = '.' then ([], first :: rest) else (c :: first, rest)

def segments (key : String) : List String :=
  let (first, rest) := splitDots key.toList
  (first :: rest).map String.ofList

/-- The value at the end of a path. -/
def lookup : List String → Toml → Option Toml
  | [], v => some v
  | s :: ss, v => (v.entry? s).bind (lookup ss)

/-- Puts a value at the end of a path and creates the tables on the way that are missing; stops at a value
that is no table.  Gives the entries that it leaves behind, and the value it stopped at. -/
def place (v : Toml) : List String → List (String × Toml) → List (String × Toml) × Option Toml
  | [], entries => (entries, none)
  | [last], entries => (Fields.put last v entries, none)
  | s :: ss, entries =>
    match entries.lookup s with
    | none =>
      let (inner, obstacle?) := place v ss []
      (Fields.put s (.table inner) entries, obstacle?)
    | some (.table inner) =>
      let (inner, obstacle?) := place v ss inner
      (Fields.replace s (.table inner) entries, obstacle?)
    | some other => (entries, some other)

end Config

/-- Where a store is kept besides memory. -/
inductive Backing where
  | memory
  | file (content : String)
  /-- The file cannot be read or written any more. -/
  | lost
  deriving DecidableEq, Inhabited

/-- The credentials of a cluster that a center serves. -/
structure Credentials where
  name : String
  token : String
  deriving DecidableEq, Inhabited, Repr

/-- A configuration with its backing. -/
structure Store where
  entries : List (String × Toml)
  backing : Backing
  deriving Inhabited

namespace Store

/-! ### Opening and flushing -/

/-- A store in memory with the entries of a document. -/
def parse (raw : String) : Except ConfigError Store :=
  match Toml.parse? raw with
  | some entries => .ok ⟨entries, .memory⟩
  | none => .error .parse

def load (content : String) : Except ConfigError Store :=
  match Toml.parse? content with
  | some entries => .ok ⟨entries, .file content⟩
  | none => .error .parse

/-- Writes the entries to the file, if there is one. -/
def flush (s : Store) : Except ConfigError Store :=
  match s.backing with
  | .memory => .ok s
  | .file _ => .ok { s with backing := .file (Toml.render s.entries) }
  | .lost => .error .io

def reopen (s : Store) : Except ConfigError Store :=
  match s.backing with
  | .file content => load content
  | .memory | .lost => .error .io

/-- The store after its file has disappeared. -/
def lose (s : Store) : Store := { s with backing := .lost }

/-! ### Looking up -/

def get? (s : Store) (key : String) : Option Toml :=
  Config.lookup (Config.segments key) (.table s.entries)

/-- The value under a key that has to be there. -/
def require (s : Store) (key : String) : Except ConfigError Toml :=
  match s.get? key with
  | some v => .ok v
  | none => .error (.missingKey key)

def getText (s : Store) (key : String) : Except ConfigError String := do
  match ← s.require key with
  | .text t => .ok t
  | other => .error (.wrongKind key "string" other.kindName)

def getInt (s : Store) (key : String) : Except ConfigError Int64 := do
  match ← s.require key with
  | .int n => .ok n
  | other => .error (.wrongKind key "integer" other.kindName)

def getTexts (s : Store) (key : String) : Except ConfigError (List String) := do
  match ← s.require key with
  | .list items => items.mapM fun
    | .text t => .ok t
    | other => .error (.wrongKind key "array of strings" other.kindName)
  | other => .error (.wrongKind key "array of strings" other.kindName)

/-! ### Values of known shape -/

/-- The values of the fields of a structure, given as a table or as a list of just these fields. -/
def fieldsOf? (names : List String) : Toml → Option (List Toml)
  | .table entries => names.mapM fun name => entries.lookup name
  | .list items => if items.length = names.length then some items else none
  | _ => none

/-- The text in a field; a moment counts as its text. -/
def fieldText? : Toml → Option String
  | .text s => some s
  | .moment m => some m.text
  | _ => none

def staticNode? (v : Toml) : Option StaticNode := do
  match ← fieldsOf? ["name", "host", "port"] v with
  | [name, host, .int port] =>
    if 0 ≤ port.toInt ∧ port.toInt < 65536 then
      return ⟨← fieldText? name, ← fieldText? host, UInt16.ofNat port.toInt.toNat⟩
    else none
  | _ => none

def credentials? (v : Toml) : Option Credentials := do
  match ← fieldsOf? ["name", "token"] v with
  | [name, token] => return ⟨← fieldText? name, ← fieldText? token⟩
  | _ => none

def getListOf {α : Type} (item : Toml → Option α) (s : Store) (key : String) :
    Except ConfigError (List α) := do
  match ← s.require key with
  | .list items =>
    match items.mapM item with
    | some xs => .ok xs
    | none => .error (.wrongShape key)
  | _ => .error (.wrongShape key)

def getStatic (s : Store) (key : String) : Except ConfigError (List StaticNode) :=
  s.getListOf staticNode? key

def getCredentials (s : Store) (key : String) : Except ConfigError (List Credentials) :=
  s.getListOf credentials? key

/-! ### Setting -/

/-- Puts a value under a key.  Tables that it created stay also if it fails. -/
def set (s : Store) (key : String) (v : Toml) : Store × Except ConfigError Unit :=
  match Config.place v (Config.segments key) s.entries with
  | (entries, none) => ({ s with entries }, .ok ())
  | (entries, some other) => ({ s with entries }, .error (.wrongKind key "table" other.kindName))

def withValue (s : Store) (key : String) (v : Toml) : Except ConfigError Store :=
  let (s, result) := s.set key v
  result.map fun _ => s

def setJson (s : Store) (key : String) (v : Json) : Except ConfigError Store :=
  match Toml.ofJson? v with
  | some v => s.withValue key v
  | none => .error .serialize

def staticToml (e : StaticNode) : Toml :=
  .table (Fields.ofList [("name", .text e.name), ("host", .text e.host),
    ("port", .int (Int64.ofNat e.port.toNat))])

def setStatic (s : Store) (key : String) (entries : List StaticNode) : Except ConfigError Store :=
  s.withValue key (.list (entries.map staticToml))

/-! ### The list of static peers -/

def staticKey : String := "static_nodes"

/-- The stored list of static peers; a missing list is empty. -/
def staticList (s : Store) : Except ConfigError (List StaticNode) :=
  match s.getStatic staticKey with
  | .ok entries => .ok entries
  | .error (.missingKey _) => .ok []
  | .error e => .error e

end Store

namespace Roster

/-- Stores the peers of all entries and gives their number; stores none if one of them is refused.  Gives
the roster that it leaves behind besides the result. -/
def load (r : Roster) (entries : List StaticNode) (this : Identity) (now : Instant) :
    Roster × Except ConfigError Nat :=
  match r.loadStatic entries this now with
  | .ok r' => (r', .ok entries.length)
  | .error (e, fault) => (r, .error (.staticNode e.name fault))

/-- Stores the peers that a store lists, and gives their number.  A missing list loads nothing. -/
def loadFrom (r : Roster) (s : Store) (this : Identity) (now : Instant) :
    Roster × Except ConfigError Nat :=
  match s.getStatic Store.staticKey with
  | .ok entries => r.load entries this now
  | .error (.missingKey _) => (r, .ok 0)
  | .error e => (r, .error e)

def loadEntries (r : Roster) (entries : List StaticNode) (this : Identity) (now : Instant) :
    Except ConfigError Roster :=
  let (r, result) := r.load entries this now
  result.map fun _ => r

/-- The roster with the peers that a store lists, and their number. -/
def loadStore (r : Roster) (s : Store) (this : Identity) (now : Instant) :
    Except ConfigError (Roster × Nat) :=
  let (r, result) := r.loadFrom s this now
  result.map (r, ·)

end Roster

end Flotilla
