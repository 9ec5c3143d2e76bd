/-!
# Punycode

The form of a label with letters beyond ASCII in letters, digits and hyphens: the ASCII characters
first, then the places and values of the others as numbers of variable length.
-/

namespace Flotilla.DomainName.Punycode

def base : Nat := 36

/-- The threshold of the digit at place `k` for a bias. -/
def threshold (k bias : Nat) : Nat := max 1 (min 26 (k - bias))

def digit (n : Nat) : Char := if n < 26 then Char.ofNat (97 + n) else Char.ofNat (22 + n)

def digitValue? (c : Char) : Option Nat :=
  if 'a' ≤ c ∧ c ≤ 'z' then some (c.toNat - 97)
  else if 'A' ≤ c ∧ c ≤ 'Z' then some (c.toNat - 65)
  else if '0' ≤ c ∧ c ≤ '9' then some (c.toNat - 22)
  else none

theorem threshold_pos (k bias : Nat) : 1 ≤ threshold k bias := Nat.le_max_left ..

theorem threshold_le (k bias : Nat) : threshold k bias ≤ 26 := by
  unfold threshold
  omega

/-- Divides a distance down until it is small; gives the bias that belongs to it. -/
def settle (k delta : Nat) : Nat :=
  if 455 < delta then settle (k + base) (delta / 35) else k + base * delta / (delta + 38)
termination_by delta
decreasing_by exact Nat.div_lt_self (by omega) (by omega)

/-- The bias after a distance. -/
def adapt (delta count : Nat) (first : Bool) : Nat :=
  let delta := if first then delta / 700 else delta / 2
  settle 0 (delta + delta / count)

/-! ### Encoding -/

/-- The digits of a distance from place `k` on. -/
def writeDelta (bias k q : Nat) : List Char :=
  let t := threshold k bias
  if q < t then [digit q]
  else digit (t + (q - t) % (base - t)) :: writeDelta bias (k + base) ((q - t) / (base - t))
termination_by q
decreasing_by
  have := threshold_pos k bias
  have : q - threshold k bias < q := by omega
  exact Nat.lt_of_le_of_lt (Nat.div_le_self ..) this

/-- What is carried along while the characters of one value are written. -/
structure Encoder where
  delta : Nat
  bias : Nat
  written : Nat
  output : List Char

/-- Passes over one character of the label while characters of value `n` are written. -/
def Encoder.pass (ascii n : Nat) (e : Encoder) (c : Char) : Encoder :=
  if c.toNat < n then { e with delta := e.delta + 1 }
  else if c.toNat = n then
    { delta := 0
      bias := adapt e.delta (e.written + 1) (e.written = ascii)
      written := e.written + 1
      output := e.output ++ writeDelta e.bias base e.delta }
  else e

/-- Writes the characters of these values, which ascend; all lower ones from `n` on do not occur. -/
def encodeFrom (label : List Char) (ascii n : Nat) (e : Encoder) : List Nat → List Char
  | [] => e.output
  | m :: ms =>
    let e := { e with delta := e.delta + (m - n) * (e.written + 1) }
    let e := label.foldl (Encoder.pass ascii m) e
    encodeFrom label ascii (m + 1) { e with delta := e.delta + 1 } ms

/-- The values of the characters beyond ASCII, each once, in ascending order. -/
def valuesBeyond (label : List Char) : List Nat :=
  (((label.map Char.toNat).filter (128 ≤ ·)).mergeSort).eraseReps

def encode (label : List Char) : List Char :=
  let plain := label.filter fun c => c.toNat < 128
  let start := if plain.isEmpty then [] else plain ++ ['-']
  encodeFrom label plain.length 128 ⟨0, 72, plain.length, start⟩ (valuesBeyond label)

/-! ### Decoding -/

/-- Reads the digits of a distance. -/
def readDelta (bias : Nat) : Nat → Nat → Nat → List Char → Option (Nat × List Char)
  | _, _, _, [] => none
  | k, w, i, c :: rest =>
    match digitValue? c with
    | none => none
    | some d =>
      let t := threshold k bias
      let i := i + d * w
      if d < t then some (i, rest) else readDelta bias (k + base) (w * (base - t)) i rest

/-- Reading a distance uses up at least one digit, so that reading a label ends. -/
theorem length_of_readDelta {bias k w i : Nat} {cs rest : List Char} {n : Nat}
    (h : readDelta bias k w i cs = some (n, rest)) : rest.length < cs.length := by
  induction cs generalizing k w i with
  | nil => simp [readDelta] at h
  | cons c cs ih =>
    simp only [readDelta] at h
    split at h
    · simp at h
    · split at h
      · simp only [Option.some.injEq, Prod.mk.injEq] at h
        simp [h.2]
      · exact Nat.lt_succ_of_lt (ih h)

def insertAll (n i bias : Nat) (first : Bool) (out digits : List Char) : Option (List Char) :=
  if digits.isEmpty then some out
  else
    match _h : readDelta bias base 1 0 digits with
    | none => none
    | some (delta, rest) =>
      let count := out.length + 1
      let i := i + delta
      let n := n + i / count
      let place := i % count
      if n.isValidChar then
        insertAll n (place + 1) (adapt delta count first) false
          (out.take place ++ Char.ofNat n :: out.drop place) rest
      else none
termination_by digits.length
decreasing_by exact length_of_readDelta (by assumption)

/-- The label with a punycode.  A hyphen stands only behind ASCII characters. -/
def decode? (code : List Char) : Option (List Char) :=
  let tail := (code.reverse.takeWhile (· != '-')).reverse
  let head := code.take (code.length - tail.length)
  if head = ['-'] then none else insertAll 128 0 72 true head.dropLast tail

end Flotilla.DomainName.Punycode
