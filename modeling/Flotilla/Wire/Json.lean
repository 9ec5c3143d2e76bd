import Flotilla.Json.Basic
import Flotilla.Wire.Datum

/-!
# Messages as JSON

A message is an object with the names of its fields, and bytes are written in hexadecimal.  A field that
is missing or null is blank.
-/

namespace Flotilla.Wire

/-- Reads a value that is no message; one of another kind is blank. -/
def Scalar.ofJson (s : Scalar) (j : Json) : Datum :=
  let number : Int := match j with
    | .int n => n
    | _ => 0
  match s, j with
  | .text, .text t => .text t
  | .text, _ => .text ""
  | .blob, .text t => .blob ((Bytes.ofHex? t).getD [])
  | .blob, _ => .blob []
  | .uint32, _ => .uint32 (UInt32.ofNat number.toNat)
  | .int32, _ => .int32 (Int32.ofInt number)
  | .int64, _ => .int64 (Int64.ofInt number)
  | .bool, .bool b => .bool b
  | .bool, _ => .bool false

/-- No message holds others more than this many levels deep. -/
def maxNesting : Nat := 8

/-- Reads the fields of a message that holds others up to a number of levels deep. -/
def MessageType.ofJsonWithin : Nat → MessageType → Json → List Datum
  | 0, _, _ => []
  | depth + 1, t, j => t.layout.map fun f =>
    let one (v : Json) : Datum := match f.kind with
      | .scalar s => s.ofJson v
      | .message inner => .message inner (ofJsonWithin depth inner v)
    match j.field? f.name with
    | none | some .null => Datum.blank f
    | some v =>
      if f.repeated then
        match v with
        | .list vs => .repeated (vs.map one)
        | _ => .repeated []
      else one v

/-- Reads the fields of a message. -/
def MessageType.ofJson (t : MessageType) (j : Json) : List Datum := ofJsonWithin maxNesting t j

namespace Datum

mutual

/-- The JSON form of a value. -/
def toJson : Datum → Json
  | .text s => .text s
  | .blob b => .text (Bytes.toHex b)
  | .uint32 n => .int n.toNat
  | .int32 n => .int n.toInt
  | .int64 n => .int n.toInt
  | .bool b => .bool b
  | .absent => .null
  | .message t ds => .ofFields ((t.layout.map (·.name)).zip (toJsonList ds))
  | .repeated ds => .list (toJsonList ds)

/-- The JSON forms of values. -/
def toJsonList : List Datum → List Json
  | [] => []
  | d :: ds => toJson d :: toJsonList ds

end

mutual

/-- Changes all texts in a value. -/
def mapText (f : String → String) : Datum → Datum
  | .text s => .text (f s)
  | .message t ds => .message t (mapTextList f ds)
  | .repeated ds => .repeated (mapTextList f ds)
  | d => d

/-- Changes all texts in values. -/
def mapTextList (f : String → String) : List Datum → List Datum
  | [] => []
  | d :: ds => mapText f d :: mapTextList f ds

end

end Datum

/-- The JSON form of a message with these fields. -/
def MessageType.toJson (t : MessageType) (ds : List Datum) : Json := (Datum.message t ds).toJson

end Flotilla.Wire
