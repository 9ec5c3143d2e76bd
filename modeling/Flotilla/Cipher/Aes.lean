import Flotilla.Bytes

/-!
# AES-256

The Advanced Encryption Standard on blocks of 16 bytes with keys of 32 bytes.  A cipher is a list of
round keys; encryption recurses over it and decryption undoes the same rounds from the inside out.
-/

namespace Flotilla.Cipher.Aes

/-! ### Bytes as elements of the field with 256 elements -/

def substitution : Array UInt8 :=
  #[0x63, 0x7c, 0x77, 0x7b, 0xf2, 0x6b, 0x6f, 0xc5, 0x30, 0x01, 0x67, 0x2b, 0xfe, 0xd7, 0xab, 0x76,
    0xca, 0x82, 0xc9, 0x7d, 0xfa, 0x59, 0x47, 0xf0, 0xad, 0xd4, 0xa2, 0xaf, 0x9c, 0xa4, 0x72, 0xc0,
    0xb7, 0xfd, 0x93, 0x26, 0x36, 0x3f, 0xf7, 0xcc, 0x34, 0xa5, 0xe5, 0xf1, 0x71, 0xd8, 0x31, 0x15,
    0x04, 0xc7, 0x23, 0xc3, 0x18, 0x96, 0x05, 0x9a, 0x07, 0x12, 0x80, 0xe2, 0xeb, 0x27, 0xb2, 0x75,
    0x09, 0x83, 0x2c, 0x1a, 0x1b, 0x6e, 0x5a, 0xa0, 0x52, 0x3b, 0xd6, 0xb3, 0x29, 0xe3, 0x2f, 0x84,
    0x53, 0xd1, 0x00, 0xed, 0x20, 0xfc, 0xb1, 0x5b, 0x6a, 0xcb, 0xbe, 0x39, 0x4a, 0x4c, 0x58, 0xcf,
    0xd0, 0xef, 0xaa, 0xfb, 0x43, 0x4d, 0x33, 0x85, 0x45, 0xf9, 0x02, 0x7f, 0x50, 0x3c, 0x9f, 0xa8,
    0x51, 0xa3, 0x40, 0x8f, 0x92, 0x9d, 0x38, 0xf5, 0xbc, 0xb6, 0xda, 0x21, 0x10, 0xff, 0xf3, 0xd2,
    0xcd, 0x0c, 0x13, 0xec, 0x5f, 0x97, 0x44, 0x17, 0xc4, 0xa7, 0x7e, 0x3d, 0x64, 0x5d, 0x19, 0x73,
    0x60, 0x81, 0x4f, 0xdc, 0x22, 0x2a, 0x90, 0x88, 0x46, 0xee, 0xb8, 0x14, 0xde, 0x5e, 0x0b, 0xdb,
    0xe0, 0x32, 0x3a, 0x0a, 0x49, 0x06, 0x24, 0x5c, 0xc2, 0xd3, 0xac, 0x62, 0x91, 0x95, 0xe4, 0x79,
    0xe7, 0xc8, 0x37, 0x6d, 0x8d, 0xd5, 0x4e, 0xa9, 0x6c, 0x56, 0xf4, 0xea, 0x65, 0x7a, 0xae, 0x08,
    0xba, 0x78, 0x25, 0x2e, 0x1c, 0xa6, 0xb4, 0xc6, 0xe8, 0xdd, 0x74, 0x1f, 0x4b, 0xbd, 0x8b, 0x8a,
    0x70, 0x3e, 0xb5, 0x66, 0x48, 0x03, 0xf6, 0x0e, 0x61, 0x35, 0x57, 0xb9, 0x86, 0xc1, 0x1d, 0x9e,
    0xe1, 0xf8, 0x98, 0x11, 0x69, 0xd9, 0x8e, 0x94, 0x9b, 0x1e, 0x87, 0xe9, 0xce, 0x55, 0x28, 0xdf,
    0x8c, 0xa1, 0x89, 0x0d, 0xbf, 0xe6, 0x42, 0x68, 0x41, 0x99, 0x2d, 0x0f, 0xb0, 0x54, 0xbb, 0x16]

def inverseSubstitution : Array UInt8 :=
  #[0x52, 0x09, 0x6a, 0xd5, 0x30, 0x36, 0xa5, 0x38, 0xbf, 0x40, 0xa3, 0x9e, 0x81, 0xf3, 0xd7, 0xfb,
    0x7c, 0xe3, 0x39, 0x82, 0x9b, 0x2f, 0xff, 0x87, 0x34, 0x8e, 0x43, 0x44, 0xc4, 0xde, 0xe9, 0xcb,
    0x54, 0x7b, 0x94, 0x32, 0xa6, 0xc2, 0x23, 0x3d, 0xee, 0x4c, 0x95, 0x0b, 0x42, 0xfa, 0xc3, 0x4e,
    0x08, 0x2e, 0xa1, 0x66, 0x28, 0xd9, 0x24, 0xb2, 0x76, 0x5b, 0xa2, 0x49, 0x6d, 0x8b, 0xd1, 0x25,
    0x72, 0xf8, 0xf6, 0x64, 0x86, 0x68, 0x98, 0x16, 0xd4, 0xa4, 0x5c, 0xcc, 0x5d, 0x65, 0xb6, 0x92,
    0x6c, 0x70, 0x48, 0x50, 0xfd, 0xed, 0xb9, 0xda, 0x5e, 0x15, 0x46, 0x57, 0xa7, 0x8d, 0x9d, 0x84,
    0x90, 0xd8, 0xab, 0x00, 0x8c, 0xbc, 0xd3, 0x0a, 0xf7, 0xe4, 0x58, 0x05, 0xb8, 0xb3, 0x45, 0x06,
    0xd0, 0x2c, 0x1e, 0x8f, 0xca, 0x3f, 0x0f, 0x02, 0xc1, 0xaf, 0xbd, 0x03, 0x01, 0x13, 0x8a, 0x6b,
    0x3a, 0x91, 0x11, 0x41, 0x4f, 0x67, 0xdc, 0xea, 0x97, 0xf2, 0xcf, 0xce, 0xf0, 0xb4, 0xe6, 0x73,
    0x96, 0xac, 0x74, 0x22, 0xe7, 0xad, 0x35, 0x85, 0xe2, 0xf9, 0x37, 0xe8, 0x1c, 0x75, 0xdf, 0x6e,
    0x47, 0xf1, 0x1a, 0x71, 0x1d, 0x29, 0xc5, 0x89, 0x6f, 0xb7, 0x62, 0x0e, 0xaa, 0x18, 0xbe, 0x1b,
    0xfc, 0x56, 0x3e, 0x4b, 0xc6, 0xd2, 0x79, 0x20, 0x9a, 0xdb, 0xc0, 0xfe, 0x78, 0xcd, 0x5a, 0xf4,
    0x1f, 0xdd, 0xa8, 0x33, 0x88, 0x07, 0xc7, 0x31, 0xb1, 0x12, 0x10, 0x59, 0x27, 0x80, 0xec, 0x5f,
    0x60, 0x51, 0x7f, 0xa9, 0x19, 0xb5, 0x4a, 0x0d, 0x2d, 0xe5, 0x7a, 0x9f, 0x93, 0xc9, 0x9c, 0xef,
    0xa0, 0xe0, 0x3b, 0x4d, 0xae, 0x2a, 0xf5, 0xb0, 0xc8, 0xeb, 0xbb, 0x3c, 0x83, 0x53, 0x99, 0x61,
    0x17, 0x2b, 0x04, 0x7e, 0xba, 0x77, 0xd6, 0x26, 0xe1, 0x69, 0x14, 0x63, 0x55, 0x21, 0x0c, 0x7d]

def sub (x : UInt8) : UInt8 := substitution.getD x.toNat 0

def unsub (x : UInt8) : UInt8 := inverseSubstitution.getD x.toNat 0

def double (x : UInt8) : UInt8 := x <<< 1 ^^^ (if x < 0x80 then 0 else 0x1b)

/-- Multiplication by four. -/
def quadruple (x : UInt8) : UInt8 := double (double x)

/-! ### Columns and blocks -/

/-- Four bytes, from top to bottom. -/
structure Column where
  b0 : UInt8
  b1 : UInt8
  b2 : UInt8
  b3 : UInt8
  deriving DecidableEq, Inhabited

namespace Column

def map (f : UInt8 → UInt8) (c : Column) : Column := ⟨f c.b0, f c.b1, f c.b2, f c.b3⟩

def xor (c d : Column) : Column := ⟨c.b0 ^^^ d.b0, c.b1 ^^^ d.b1, c.b2 ^^^ d.b2, c.b3 ^^^ d.b3⟩

/-- Moves each byte up by one place, the first to the end. -/
def rotate (c : Column) : Column := ⟨c.b1, c.b2, c.b3, c.b0⟩

/-- Each byte becomes twice itself, three times the next one, and once the other two. -/
def mix (c : Column) : Column :=
  let all := c.b0 ^^^ c.b1 ^^^ c.b2 ^^^ c.b3
  ⟨c.b0 ^^^ all ^^^ double (c.b0 ^^^ c.b1), c.b1 ^^^ all ^^^ double (c.b1 ^^^ c.b2),
    c.b2 ^^^ all ^^^ double (c.b2 ^^^ c.b3), c.b3 ^^^ all ^^^ double (c.b3 ^^^ c.b0)⟩

/-- The inverse of `mix`: the same step after a correction by the alternating sums. -/
def unmix (c : Column) : Column :=
  let even := quadruple (c.b0 ^^^ c.b2)
  let odd := quadruple (c.b1 ^^^ c.b3)
  mix ⟨c.b0 ^^^ even, c.b1 ^^^ odd, c.b2 ^^^ even, c.b3 ^^^ odd⟩

end Column

/-- Sixteen bytes, as four columns from left to right. -/
structure Block where
  c0 : Column
  c1 : Column
  c2 : Column
  c3 : Column
  deriving DecidableEq, Inhabited

namespace Block

def map (f : Column → Column) (s : Block) : Block := ⟨f s.c0, f s.c1, f s.c2, f s.c3⟩

def xor (s t : Block) : Block := ⟨s.c0.xor t.c0, s.c1.xor t.c1, s.c2.xor t.c2, s.c3.xor t.c3⟩

/-- Moves row `i` to the left by `i` places. -/
def shift (s : Block) : Block :=
  ⟨⟨s.c0.b0, s.c1.b1, s.c2.b2, s.c3.b3⟩, ⟨s.c1.b0, s.c2.b1, s.c3.b2, s.c0.b3⟩,
    ⟨s.c2.b0, s.c3.b1, s.c0.b2, s.c1.b3⟩, ⟨s.c3.b0, s.c0.b1, s.c1.b2, s.c2.b3⟩⟩

/-- Moves row `i` to the right by `i` places. -/
def unshift (s : Block) : Block :=
  ⟨⟨s.c0.b0, s.c3.b1, s.c2.b2, s.c1.b3⟩, ⟨s.c1.b0, s.c0.b1, s.c3.b2, s.c2.b3⟩,
    ⟨s.c2.b0, s.c1.b1, s.c0.b2, s.c3.b3⟩, ⟨s.c3.b0, s.c2.b1, s.c1.b2, s.c0.b3⟩⟩

def substitute (s : Block) : Block := s.map (·.map sub)

def unsubstitute (s : Block) : Block := s.map (·.map unsub)

/-- Column by column, the bytes of a block. -/
def toBytes (s : Block) : Bytes :=
  [s.c0.b0, s.c0.b1, s.c0.b2, s.c0.b3, s.c1.b0, s.c1.b1, s.c1.b2, s.c1.b3,
    s.c2.b0, s.c2.b1, s.c2.b2, s.c2.b3, s.c3.b0, s.c3.b1, s.c3.b2, s.c3.b3]

/-- The blocks that a byte string is made of, if its length is a multiple of sixteen. -/
def ofBytes? : Bytes → Option (List Block)
  | [] => some []
  | a0 :: a1 :: a2 :: a3 :: b0 :: b1 :: b2 :: b3 :: c0 :: c1 :: c2 :: c3 :: d0 :: d1 :: d2 :: d3
      :: rest =>
    (ofBytes? rest).map
      (⟨⟨a0, a1, a2, a3⟩, ⟨b0, b1, b2, b3⟩, ⟨c0, c1, c2, c3⟩, ⟨d0, d1, d2, d3⟩⟩ :: ·)
  | _ => none

@[simp] theorem length_toBytes (s : Block) : s.toBytes.length = 16 := rfl

@[simp] theorem unshift_shift (s : Block) : s.shift.unshift = s := rfl

@[simp] theorem shift_unshift (s : Block) : s.unshift.shift = s := rfl

@[simp] theorem ofBytes?_flatMap_toBytes (bs : List Block) :
    ofBytes? (bs.flatMap toBytes) = some bs := by
  induction bs with
  | nil => rfl
  | cons b bs ih => simp [toBytes, ofBytes?, ih]

end Block

/-! ### Round keys -/

/-- The two blocks of round keys that follow `a` and `b`; `r` is the constant of this turn. -/
def nextKeys (a b : Block) (r : UInt8) : Block × Block :=
  let head := (b.c3.rotate.map sub).xor ⟨r, 0, 0, 0⟩
  let a0 := a.c0.xor head
  let a1 := a.c1.xor a0
  let a2 := a.c2.xor a1
  let a3 := a.c3.xor a2
  let b0 := b.c0.xor (a3.map sub)
  let b1 := b.c1.xor b0
  let b2 := b.c2.xor b1
  let b3 := b.c3.xor b2
  (⟨a0, a1, a2, a3⟩, ⟨b0, b1, b2, b3⟩)

/-- All round keys that start with `a` and `b`, one further pair for each constant. -/
def roundKeys (a b : Block) : List UInt8 → List Block
  | [] => [a, b]
  | r :: rs =>
    let next := nextKeys a b r
    a :: b :: roundKeys next.1 next.2 rs

/-- The first key of a cipher and the keys of its fourteen rounds. -/
structure Schedule where
  first : Block
  rounds : List Block
  deriving DecidableEq, Inhabited

/-- The round keys of a 32-byte key, given as its two halves. -/
def Schedule.ofKey (a b : Block) : Schedule :=
  ⟨a, ((roundKeys a b [1, 2, 4, 8, 16, 32, 64]).drop 1).take 14⟩

/-! ### The cipher -/

/-- The rounds of encryption; the last one does not mix the columns. -/
def applyRounds : List Block → Block → Block
  | [], s => s
  | [k], s => s.substitute.shift.xor k
  | k :: ks, s => applyRounds ks ((s.substitute.shift.map Column.mix).xor k)

/-- The rounds of encryption undone, the last one first. -/
def undoRounds : List Block → Block → Block
  | [], s => s
  | [k], s => (s.xor k).unshift.unsubstitute
  | k :: ks, s => (((undoRounds ks s).xor k).map Column.unmix).unshift.unsubstitute

def encrypt (keys : Schedule) (s : Block) : Block := applyRounds keys.rounds (s.xor keys.first)

def decrypt (keys : Schedule) (s : Block) : Block := (undoRounds keys.rounds s).xor keys.first

end Flotilla.Cipher.Aes
