import Flotilla.Text.Hex

/-!
# Byte strings

A byte string is a list of bytes.  This module ties byte strings to text (UTF-8) and to their
hexadecimal form, and cuts them into blocks.  The main statement is that text survives the way to
bytes and back, and that only the bytes of a text are read as one.
-/

namespace Flotilla

abbrev Bytes := List UInt8

namespace Bytes

/-! ### Text -/

def ofText (s : String) : Bytes := s.toUTF8.data.toList

/-- The text whose UTF-8 bytes these are, if there is one. -/
def toText? (b : Bytes) : Option String := String.fromUTF8? ⟨b.toArray⟩

@[simp] theorem toText?_ofText (s : String) : toText? (ofText s) = some s := by
  simp [toText?, ofText, String.fromUTF8?, String.toUTF8, String.fromUTF8, s.isValidUTF8]

theorem eq_ofText_of_toText? {b : Bytes} {s : String} (h : toText? b = some s) : b = ofText s := by
  simp only [toText?, String.fromUTF8?] at h
  split at h
  · simp only [Option.some.injEq] at h
    subst h
    simp [ofText, String.fromUTF8, String.toUTF8]
  · simp at h

/-- A text is read from its own bytes and from no others. -/
theorem toText?_eq_some_iff {b : Bytes} {s : String} : toText? b = some s ↔ b = ofText s :=
  ⟨eq_ofText_of_toText?, fun h => h ▸ toText?_ofText s⟩

/-- Different texts have different bytes. -/
theorem ofText_injective {s t : String} (h : ofText s = ofText t) : s = t := by
  have hs := toText?_ofText s
  rw [h, toText?_ofText] at hs
  exact (Option.some.inj hs).symm

/-! ### Hexadecimal form -/

/-- Two lower-case hexadecimal digits for each byte. -/
def toHex (b : Bytes) : String :=
  String.ofList (b.flatMap fun x => [Text.hexDigit (x.toNat / 16), Text.hexDigit (x.toNat % 16)])

/-- The bytes written by pairs of hexadecimal digits. -/
def ofHexDigits : List Char → Option Bytes
  | [] => some []
  | [_] => none
  | h :: l :: rest => do
    let hi ← Text.hexValue? h
    let lo ← Text.hexValue? l
    return UInt8.ofNat (16 * hi + lo) :: (← ofHexDigits rest)

/-- The bytes written by an even number of hexadecimal digits. -/
def ofHex? (s : String) : Option Bytes := ofHexDigits s.toList

/-! ### Words and blocks -/

/-- The four bytes of a word, the most significant first. -/
def ofWord (w : UInt32) : Bytes :=
  [(w >>> 24).toUInt8, (w >>> 16).toUInt8, (w >>> 8).toUInt8, w.toUInt8]

/-- The word written by four bytes, the most significant first. -/
def word (a b c d : UInt8) : UInt32 :=
  a.toUInt32 <<< 24 ||| b.toUInt32 <<< 16 ||| c.toUInt32 <<< 8 ||| d.toUInt32

/-- The words of a byte string, four bytes each; a rest of fewer than four bytes is left out. -/
def words : Bytes → List UInt32
  | a :: b :: c :: d :: rest => word a b c d :: words rest
  | _ => []

@[simp] theorem length_ofWord (w : UInt32) : (ofWord w).length = 4 := rfl

end Bytes

end Flotilla
