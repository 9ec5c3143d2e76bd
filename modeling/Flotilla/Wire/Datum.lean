import Flotilla.Wire.Record
import Flotilla.Wire.Schema

/-!
# Message values and their bytes

A message value holds one datum for each field of its layout.  Scalars that are zero, empty or false
are left out when written; a datum that is not found when reading keeps its blank value.  Fields may
come in any order and more than once: the last scalar counts, messages are merged and lists grow.
-/

namespace Flotilla.Wire

/-- The value of a field. -/
inductive Datum where
  | text (s : String)
  | blob (b : Bytes)
  | uint32 (n : UInt32)
  | int32 (n : Int32)
  | int64 (n : Int64)
  | bool (b : Bool)
  | absent
  | message (t : MessageType) (fields : List Datum)
  | repeated (items : List Datum)
  deriving Inhabited

namespace Datum

/-! ### Blank values -/

/-- The value of a scalar that was not written. -/
def blankScalar : Scalar → Datum
  | .text => .text ""
  | .blob => .blob []
  | .uint32 => .uint32 0
  | .int32 => .int32 0
  | .int64 => .int64 0
  | .bool => .bool false

/-- The value of a field that was not written. -/
def blank (f : Field) : Datum :=
  if f.repeated then .repeated []
  else match f.kind with
    | .scalar s => blankScalar s
    | .message _ => .absent

/-- The fields of a message of which nothing was written. -/
def blankFields (t : MessageType) : List Datum := t.layout.map blank

/-! ### Well-formed values -/

mutual

def OfKind : Kind → Datum → Prop
  | .scalar .text, .text _ => True
  | .scalar .blob, .blob _ => True
  | .scalar .uint32, .uint32 _ => True
  | .scalar .int32, .int32 _ => True
  | .scalar .int64, .int64 _ => True
  | .scalar .bool, .bool _ => True
  | .message t, .message t' ds => t = t' ∧ OfLayout t.layout ds
  | _, _ => False

/-- All data are values of the kind. -/
def AllOfKind (k : Kind) : List Datum → Prop
  | [] => True
  | d :: ds => OfKind k d ∧ AllOfKind k ds

def OfLayout : List Field → List Datum → Prop
  | [], [] => True
  | f :: fs, d :: ds => OfField f d ∧ OfLayout fs ds
  | _, _ => False

def OfField : Field → Datum → Prop
  | ⟨_, _, k, true⟩, .repeated ds => AllOfKind k ds
  | ⟨_, _, .message _, false⟩, .absent => True
  | ⟨_, _, .message t, false⟩, .message t' ds => t = t' ∧ OfLayout t.layout ds
  | ⟨_, _, .scalar .text, false⟩, .text _ => True
  | ⟨_, _, .scalar .blob, false⟩, .blob _ => True
  | ⟨_, _, .scalar .uint32, false⟩, .uint32 _ => True
  | ⟨_, _, .scalar .int32, false⟩, .int32 _ => True
  | ⟨_, _, .scalar .int64, false⟩, .int64 _ => True
  | ⟨_, _, .scalar .bool, false⟩, .bool _ => True
  | _, _ => False

end

/-! ### Writing -/

/-- The number in two's complement of 64 bits. -/
def twosComplement (n : Int) : Nat := (n % Word.size64).toNat

/-- A record, which is left out if it is blank and need not be there. -/
def unlessBlank (always isBlank : Bool) (r : Record) : List Record :=
  if !always && isBlank then [] else [r]

mutual

/-- The records of a field; a blank scalar is written if `always` says so. -/
def records (number : Nat) (always : Bool) : Datum → List Record
  | .text s => unlessBlank always (s == "") ⟨number, .bytes (Bytes.ofText s)⟩
  | .blob b => unlessBlank always (b == []) ⟨number, .bytes b⟩
  | .uint32 n => unlessBlank always (n == 0) ⟨number, .varint n.toNat⟩
  | .int32 n => unlessBlank always (n == 0) ⟨number, .varint (twosComplement n.toInt)⟩
  | .int64 n => unlessBlank always (n == 0) ⟨number, .varint (twosComplement n.toInt)⟩
  | .bool b => unlessBlank always (b == false) ⟨number, .varint b.toNat⟩
  | .absent => []
  | .message t ds => [⟨number, .bytes (Record.writeAll (fieldRecords t.layout ds))⟩]
  | .repeated ds => itemRecords number ds

/-- The records of the items of a list, blank ones included. -/
def itemRecords (number : Nat) : List Datum → List Record
  | [] => []
  | d :: ds => d.records number true ++ itemRecords number ds

def fieldRecords : List Field → List Datum → List Record
  | f :: fs, d :: ds => d.records f.number false ++ fieldRecords fs ds
  | _, _ => []

end

def encode (t : MessageType) (ds : List Datum) : Bytes := Record.writeAll (fieldRecords t.layout ds)

/-! ### Reading -/

/-- The scalar that a payload writes; a number keeps its low bits, and a text has to be UTF-8. -/
def ofPayload? : Scalar → Payload → Option Datum
  | .text, .bytes b => (Bytes.toText? b).map .text
  | .blob, .bytes b => some (.blob b)
  | .uint32, .varint n => some (.uint32 (UInt32.ofNat n))
  | .int32, .varint n => some (.int32 (Int32.ofNat n))
  | .int64, .varint n => some (.int64 (Int64.ofNat n))
  | .bool, .varint n => some (.bool (n != 0))
  | _, _ => none

/-- Reads a payload into a field that already holds `old`; `inner` reads messages into fields. -/
def mergeField (inner : MessageType → List Datum → Bytes → Option (List Datum))
    (f : Field) (old : Datum) (p : Payload) : Option Datum :=
  match f.kind, f.repeated, old, p with
  | .scalar s, true, .repeated ds, p => (ofPayload? s p).map fun d => .repeated (ds ++ [d])
  | .scalar s, false, _, p => ofPayload? s p
  | .message t, true, .repeated ds, .bytes b =>
    (inner t (blankFields t) b).map fun fields => .repeated (ds ++ [.message t fields])
  | .message t, false, .message _ fields, .bytes b => (inner t fields b).map (.message t)
  | .message t, false, _, .bytes b => (inner t (blankFields t) b).map (.message t)
  | _, _, _, _ => none

/-- Reads a record into the field that it belongs to, if there is one. -/
def mergeRecord (inner : MessageType → List Datum → Bytes → Option (List Datum)) (r : Record) :
    List Field → List Datum → Option (List Datum)
  | f :: fs, d :: ds =>
    if f.number = r.number then (mergeField inner f d r.payload).map (· :: ds)
    else (mergeRecord inner r fs ds).map (d :: ·)
  | _, ds => some ds

/-- How deep messages and groups may be nested. -/
def nestingLimit : Nat := 100

/-- Reads bytes into the fields of a message, nested at most as deep as `budget` allows. -/
def merge : Nat → MessageType → List Datum → Bytes → Option (List Datum)
  | 0, _, _, _ => none
  | budget + 1, t, ds, b =>
    match Record.readAll? (budget + 1) b with
    | none => none
    | some rs => rs.foldlM (fun ds r => mergeRecord (merge budget) r t.layout ds) ds

def decode? (t : MessageType) (b : Bytes) : Option (List Datum) :=
  merge nestingLimit t (blankFields t) b

end Datum

end Flotilla.Wire
