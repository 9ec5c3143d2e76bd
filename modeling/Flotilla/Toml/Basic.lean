import Flotilla.Decimal.Positional
import Flotilla.Fields
import Flotilla.Json.Basic
import Flotilla.Toml.Moment

/-!
# TOML values

Tables hold their entries sorted by key.
-/

namespace Flotilla

inductive Toml where
  | text (s : String)
  | int (n : Int64)
  | float (x : Extended)
  | bool (b : Bool)
  | moment (m : Toml.Moment)
  | list (xs : List Toml)
  | table (entries : List (String × Toml))
  deriving Inhabited, Repr

namespace Toml

def kindName : Toml → String
  | .text _ => "string"
  | .int _ => "integer"
  | .float _ => "float"
  | .bool _ => "boolean"
  | .moment _ => "datetime"
  | .list _ => "array"
  | .table _ => "table"

def entry? (key : String) : Toml → Option Toml
  | .table entries => entries.lookup key
  | _ => none

mutual

/-- The TOML value of a JSON value.  There is none for null and for a whole number beyond 64 bits with
sign. -/
def ofJson? : Json → Option Toml
  | .null => none
  | .bool b => some (.bool b)
  | .int n => if Word.fitsSigned n then some (.int (Int64.ofInt n)) else none
  | .float x => some (.float (.finite x))
  | .text s => some (.text s)
  | .list xs => (ofJsonItems? xs).map .list
  | .object fields => (ofJsonFields? fields).map .table

def ofJsonItems? : List Json → Option (List Toml)
  | [] => some []
  | x :: xs => do return (← ofJson? x) :: (← ofJsonItems? xs)

def ofJsonFields? : List (String × Json) → Option (List (String × Toml))
  | [] => some []
  | f :: fs => do return (← ofJsonField? f) :: (← ofJsonFields? fs)

def ofJsonField? : String × Json → Option (String × Toml)
  | (k, v) => (ofJson? v).map (k, ·)

end

end Toml

end Flotilla
