import Flotilla.Decimal.Binary64
import Flotilla.Fields
import Flotilla.Word

/-!
# JSON values

Objects hold their fields sorted by name, each name once, so that equal objects are equal values.
Whole numbers in the range of 64 bits are kept apart from floating-point numbers.
-/

namespace Flotilla

inductive Json where
  | null
  | bool (b : Bool)
  | int (n : Int)
  | float (x : Binary64)
  | text (s : String)
  | list (xs : List Json)
  | object (fields : List (String × Json))
  deriving Inhabited, Repr

namespace Json

/-! ### Decidable equality -/

mutual

private def decEq : (a b : Json) → Decidable (a = b)
  | .null, .null => isTrue rfl
  | .bool a, .bool b => decidable_of_iff (a = b) (by simp)
  | .int a, .int b => decidable_of_iff (a = b) (by simp)
  | .float a, .float b => decidable_of_iff (a = b) (by simp)
  | .text a, .text b => decidable_of_iff (a = b) (by simp)
  | .list a, .list b => @decidable_of_iff _ (a = b) (by simp) (decEqItems a b)
  | .object a, .object b => @decidable_of_iff _ (a = b) (by simp) (decEqFields a b)
  | .null, .bool _ | .null, .int _ | .null, .float _ | .null, .text _ | .null, .list _
  | .null, .object _ => isFalse (by simp)
  | .bool _, .null | .bool _, .int _ | .bool _, .float _ | .bool _, .text _ | .bool _, .list _
  | .bool _, .object _ => isFalse (by simp)
  | .int _, .null | .int _, .bool _ | .int _, .float _ | .int _, .text _ | .int _, .list _
  | .int _, .object _ => isFalse (by simp)
  | .float _, .null | .float _, .bool _ | .float _, .int _ | .float _, .text _
  | .float _, .list _ | .float _, .object _ => isFalse (by simp)
  | .text _, .null | .text _, .bool _ | .text _, .int _ | .text _, .float _ | .text _, .list _
  | .text _, .object _ => isFalse (by simp)
  | .list _, .null | .list _, .bool _ | .list _, .int _ | .list _, .float _ | .list _, .text _
  | .list _, .object _ => isFalse (by simp)
  | .object _, .null | .object _, .bool _ | .object _, .int _ | .object _, .float _
  | .object _, .text _ | .object _, .list _ => isFalse (by simp)

private def decEqItems : (a b : List Json) → Decidable (a = b)
  | [], [] => isTrue rfl
  | [], _ :: _ => isFalse (by simp)
  | _ :: _, [] => isFalse (by simp)
  | a :: as, b :: bs =>
    match decEq a b, decEqItems as bs with
    | isTrue h, isTrue hs => isTrue (by rw [h, hs])
    | isFalse h, _ => isFalse (by simp [h])
    | _, isFalse hs => isFalse (by simp [hs])

private def decEqFields : (a b : List (String × Json)) → Decidable (a = b)
  | [], [] => isTrue rfl
  | [], _ :: _ => isFalse (by simp)
  | _ :: _, [] => isFalse (by simp)
  | a :: as, b :: bs =>
    match decEqField a b, decEqFields as bs with
    | isTrue h, isTrue hs => isTrue (by rw [h, hs])
    | isFalse h, _ => isFalse (by simp [h])
    | _, isFalse hs => isFalse (by simp [hs])

private def decEqField : (a b : String × Json) → Decidable (a = b)
  | (k, v), (l, w) =>
    match decEq v w with
    | isTrue h => decidable_of_iff (k = l) (by simp [h])
    | isFalse h => isFalse (by simp [h])

end

instance : DecidableEq Json := decEq

/-! ### Objects -/

/-- The object with these fields; of two fields with one name the later one counts. -/
def ofFields (fields : List (String × Json)) : Json := .object (Fields.ofList fields)

/-- The value of a field, if the value is an object that has it. -/
def field? (name : String) : Json → Option Json
  | .object fields => fields.lookup name
  | _ => none

/-! ### Values in normal form -/

/-- The least whole number that is kept exactly. -/
def minInt : Int := Word.minSigned

/-- The greatest whole number that is kept exactly. -/
def maxInt : Int := Word.size64 - 1

/-- Names in strictly ascending order. -/
def Ascending : List (String × Json) → Prop
  | [] => True
  | [_] => True
  | a :: b :: rest => a.1 < b.1 ∧ Ascending (b :: rest)

mutual

/-- Whole numbers are in range, fields are sorted by name, and no floating-point number occurs. -/
def Exact : Json → Prop
  | .null | .bool _ | .text _ => True
  | .int n => minInt ≤ n ∧ n ≤ maxInt
  | .float _ => False
  | .list xs => ExactItems xs
  | .object fields => Ascending fields ∧ ExactFields fields

def ExactItems : List Json → Prop
  | [] => True
  | x :: xs => x.Exact ∧ ExactItems xs

def ExactFields : List (String × Json) → Prop
  | [] => True
  | f :: fs => ExactField f ∧ ExactFields fs

def ExactField : String × Json → Prop
  | (_, v) => v.Exact

end

mutual

def depth : Json → Nat
  | .list xs => depthItems xs + 1
  | .object fields => depthFields fields + 1
  | _ => 0

def depthItems : List Json → Nat
  | [] => 0
  | x :: xs => max x.depth (depthItems xs)

/-- The greatest depth among the values of fields. -/
def depthFields : List (String × Json) → Nat
  | [] => 0
  | f :: fs => max (depthField f) (depthFields fs)

def depthField : String × Json → Nat
  | (_, v) => v.depth

end

end Json

end Flotilla
