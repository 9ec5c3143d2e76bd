import Flotilla.Json.Basic

/-!
# Reading values of known shape

A structure is read from an object, where unknown fields are ignored, or from a list of its fields in
order.  An optional field may be left out; in a list, only at the end.
-/

namespace Flotilla.Json

def toText? : Json → Option String
  | .text s => some s
  | _ => none

def toBool? : Json → Option Bool
  | .bool b => some b
  | _ => none

/-- The whole number, if the value is one in the range. -/
def toIntIn? (low high : Int) : Json → Option Int
  | .int n => if low ≤ n ∧ n ≤ high then some n else none
  | _ => none

/-- The whole number of 16 bits, if the value is one. -/
def toUInt16? (v : Json) : Option UInt16 := (v.toIntIn? 0 65535).map fun n => UInt16.ofNat n.toNat

/-- The whole number of 64 bits with sign, if the value is one. -/
def toInt64? (v : Json) : Option Int64 := (v.toIntIn? Word.minSigned Word.maxSigned).map Int64.ofInt

def toListOf? {α : Type} (item : Json → Option α) : Json → Option (List α)
  | .list xs => xs.mapM item
  | _ => none

structure Slot where
  name : String
  /-- The field may be left out. -/
  optional : Bool

/-- A field that has to be there. -/
def required (name : String) : Slot := ⟨name, false⟩

/-- A field that may be left out. -/
def optional (name : String) : Slot := ⟨name, true⟩

/-- The values of fields given by their places; fields at the end may be left out. -/
def fromItems : List Slot → List Json → Option (List (Option Json))
  | [], [] => some []
  | [], _ :: _ => none
  | s :: slots, [] => if s.optional then (fromItems slots []).map (none :: ·) else none
  | _ :: slots, v :: vs => (fromItems slots vs).map (some v :: ·)

def fromFields (fields : List (String × Json)) : List Slot → Option (List (Option Json))
  | [] => some []
  | s :: slots =>
    match fields.lookup s.name with
    | some v => (fromFields fields slots).map (some v :: ·)
    | none => if s.optional then (fromFields fields slots).map (none :: ·) else none

/-- The values of the fields of a structure, in order; the value of a field left out is missing. -/
def slots? (slots : List Slot) : Json → Option (List (Option Json))
  | .object fields => fromFields fields slots
  | .list items => fromItems slots items
  | _ => none

/-- The value of a field that may be left out. -/
def readOr? {α : Type} (default : α) (read : Json → Option α) : Option Json → Option α
  | none => some default
  | some v => read v

end Flotilla.Json
