import Flotilla.Toml.Basic
import Flotilla.Text.Hex

/-!
# Writing TOML documents

Every key is quoted.  Tables and lists of tables are written under headers and all other values in one
line, so that a document reads back as the entries it was written from.
-/

namespace Flotilla.Toml

def quoteChar (c : Char) : List Char :=
  if c = '"' then ['\\', '"']
  else if c = '\\' then ['\\', '\\']
  else if c.toNat < 0x20 ∨ c.toNat = 0x7f then
    ['\\', 'u', '0', '0', Text.hexDigit (c.toNat / 16), Text.hexDigit (c.toNat % 16)]
  else [c]

/-- A text between quotation marks. -/
def quote (s : String) : List Char := '"' :: s.toList.flatMap quoteChar ++ ['"']

/-- A floating-point number; a whole one gets a point. -/
def printFloat : Extended → List Char
  | .finite x =>
    let ds := Decimal.positional x
    if ds.contains '.' then ds else ds ++ ['.', '0']
  | .infinite negative => if negative then ['-', 'i', 'n', 'f'] else ['i', 'n', 'f']
  | .nan => ['n', 'a', 'n']

mutual

/-- A value in one line. -/
def print : Toml → List Char
  | .text s => quote s
  | .int n => (toString n.toInt).toList
  | .float x => printFloat x
  | .bool true => ['t', 'r', 'u', 'e']
  | .bool false => ['f', 'a', 'l', 's', 'e']
  | .moment m => m.text.toList
  | .list [] => ['[', ']']
  | .list (x :: xs) => '[' :: print x ++ printItems xs
  | .table [] => ['\x7b', '\x7d']
  | .table (e :: es) => '\x7b' :: printEntry e ++ printEntries es

/-- The items after the first one, and the closing bracket. -/
def printItems : List Toml → List Char
  | [] => [']']
  | x :: xs => ',' :: print x ++ printItems xs

/-- The entries after the first one, and the closing brace. -/
def printEntries : List (String × Toml) → List Char
  | [] => ['\x7d']
  | e :: es => ',' :: printEntry e ++ printEntries es

/-- A key and a value. -/
def printEntry : String × Toml → List Char
  | (k, v) => quote k ++ '=' :: print v

end

/-! ### Documents -/

/-- Whether a value is a table. -/
def isTable : Toml → Bool
  | .table _ => true
  | _ => false

/-- Whether a value is a list of tables, and not empty. -/
def isTableList : Toml → Bool
  | .list [] => false
  | .list xs => xs.all isTable
  | _ => false

/-- Whether a value stands in one line with its key. -/
def fitsLine (v : Toml) : Bool := !isTable v && !isTableList v

/-- The keys of a path, separated by dots. -/
def printPath (path : List String) : List Char := (List.intersperse ['.'] (path.map quote)).flatten

def printHeader (path : List String) : List Char := '[' :: printPath path ++ [']', '\n']

def printListHeader (path : List String) : List Char := '[' :: '[' :: printPath path ++ [']', ']', '\n']

def entryLines (entries : List (String × Toml)) : List Char :=
  (entries.filter fun e => fitsLine e.2).flatMap fun e => printEntry e ++ ['\n']

mutual

/-- The tables and lists of tables among entries, with everything below them. -/
def tableLines (path : List String) : List (String × Toml) → List Char
  | [] => []
  | e :: es => tableLine path e ++ tableLines path es

def tableLine (path : List String) : String × Toml → List Char
  | (k, v) => tables (path ++ [k]) v

/-- The tables of a value at the end of a path.  A table has a header if it has entries in lines of
their own, or none at all. -/
def tables (path : List String) : Toml → List Char
  | .table entries =>
    (if entries.isEmpty || entries.any (fun e => fitsLine e.2) then
      printHeader path ++ entryLines entries
    else []) ++ tableLines path entries
  | .list xs => if isTableList (.list xs) then listTables path xs else []
  | _ => []

def listTables (path : List String) : List Toml → List Char
  | [] => []
  | x :: xs => listTable path x ++ listTables path xs

/-- A table of a list with its header; nothing for another value. -/
def listTable (path : List String) : Toml → List Char
  | .table entries => printListHeader path ++ entryLines entries ++ tableLines path entries
  | _ => []

end

/-- The document with these entries. -/
def render (entries : List (String × Toml)) : String :=
  String.ofList (entryLines entries ++ tableLines [] entries)

end Flotilla.Toml
