import Flotilla.Toml.Basic

/-!
# TOML values as JSON

A float is an object with its text under one key, and a moment one with its text under another.
-/

namespace Flotilla.Toml

mutual

/-- The JSON form of a value. -/
def toJson : Toml → Json
  | .text s => .text s
  | .int n => .int n.toInt
  | .float x => .ofFields [("float", .text x.text)]
  | .bool b => .bool b
  | .moment m => .ofFields [("datetime", .text m.text)]
  | .list xs => .list (toJsonList xs)
  | .table entries => .ofFields (toJsonEntries entries)

/-- The JSON forms of values. -/
def toJsonList : List Toml → List Json
  | [] => []
  | x :: xs => toJson x :: toJsonList xs

def toJsonEntries : List (String × Toml) → List (String × Json)
  | [] => []
  | e :: rest => toJsonEntry e :: toJsonEntries rest

def toJsonEntry : String × Toml → String × Json
  | (k, v) => (k, toJson v)

end

end Flotilla.Toml
