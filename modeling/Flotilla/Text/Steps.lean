import Flotilla.Text.Hex
import Flotilla.Text.Parts

/-!
# Tables of code points

A property of characters that changes at a few code points only is kept as a table of these, in ascending
order, with what holds from each of them on.  Tables are written in rows of words; numbers in them are in
hexadecimal digits.
-/

namespace Flotilla.Text

/-- Looks in the interval `[low, high)` of an ascending array for the first element above `n`, halving it. -/
def searchAbove (xs : Array Nat) (n : Nat) : Nat → Nat → Nat → Nat
  | 0, low, _ => low
  | fuel + 1, low, high =>
    if low ≥ high then low
    else
      let middle := (low + high) / 2
      if xs.getD middle 0 ≤ n then searchAbove xs n fuel (middle + 1) high
      else searchAbove xs n fuel low middle

/-- The number of elements up to `n` in an ascending array.  An interval of `size` elements can be halved
`size` times at most. -/
def countUpTo (xs : Array Nat) (n : Nat) : Nat := searchAbove xs n xs.size 0 xs.size

/-- Whether a code point lies in one of some ranges, which are given by their bounds: the first code point
of each and the first one after it. -/
def isWithin (bounds : Array Nat) (n : Nat) : Bool := countUpTo bounds n % 2 = 1

theorem searchAbove_le (xs : Array Nat) (n fuel low high : Nat) (h : low ≤ high) :
    searchAbove xs n fuel low high ≤ high := by
  induction fuel generalizing low high with
  | zero => exact h
  | succ fuel ih =>
    simp only [searchAbove]
    split
    · exact h
    · split
      · exact ih _ _ (by omega)
      · exact Nat.le_trans (ih _ _ (by omega)) (by omega)

theorem countUpTo_le_size (xs : Array Nat) (n : Nat) : countUpTo xs n ≤ xs.size :=
  searchAbove_le xs n xs.size 0 xs.size (Nat.zero_le _)

/-- The words of rows; blanks stand between them. -/
def words (rows : List String) : List (List Char) := rows.flatMap fun row => splitAt ' ' row.toList

def number (digits : List Char) : Nat := (hexNumber? digits).getD 0

def numbers (rows : List String) : Array Nat := ((words rows).map number).toArray

/-- What holds of code points from step to step. -/
structure Steps (α : Type) where
  starts : Array Nat
  values : Array α

namespace Steps

variable {α : Type}

/-- Reads a table whose words are a code point, a colon, and what holds from there on. -/
def read (value : List Char → α) (rows : List String) : Steps α :=
  let entries := (words rows).map fun word => word.span (· != ':')
  ⟨(entries.map fun e => number e.1).toArray, (entries.map fun e => value (e.2.drop 1)).toArray⟩

/-- The step that a code point lies on, and what holds there. -/
def at? (s : Steps α) (n : Nat) : Option (Nat × α) := do
  let place := countUpTo s.starts n - 1
  let start ← s.starts[place]?
  if start ≤ n then return (start, ← s.values[place]?) else none

/-- What holds of a code point; the first argument is for code points before the first step. -/
def get (default : α) (s : Steps α) (n : Nat) : α := ((s.at? n).map (·.2)).getD default

/-- What is kept for a number that a step starts with. -/
def find? (s : Steps α) (n : Nat) : Option α := do
  let (start, value) ← s.at? n
  if start = n then some value else none

end Steps

end Flotilla.Text
