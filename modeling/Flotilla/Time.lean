import Flotilla.Decimal.Binary64

/-!
# Instants and spans of time

Both are counted in nanoseconds.  Instants count from a fixed epoch and may be negative.
-/

namespace Flotilla

/-- Nanoseconds since the epoch. -/
abbrev Instant := Int

/-- A length of time in nanoseconds. -/
abbrev Span := Nat

namespace Span

def seconds (n : Nat) : Span := n * 1000000000

def millis (n : Nat) : Span := n * 1000000

/-- The seconds of a span as a floating-point number: the whole ones, and added to them the rest divided by
a billion. -/
def inSeconds? (d : Span) : Option Binary64 := do
  let whole ← Binary64.ofRatio? false (d / 1000000000) 1
  let rest ← Binary64.ofRatio? false (d % 1000000000) 1
  let billion ← Binary64.ofRatio? false 1000000000 1
  whole.add? (← rest.div? billion)

/-- Whether a span has more seconds than another one, both as floating-point numbers.  Seconds that are
beyond the largest number are infinitely many. -/
def exceeds (d limit : Span) : Bool :=
  match d.inSeconds?, limit.inSeconds? with
  | some x, some y => y < x
  | none, some _ => true
  | _, none => false

/-- A number and the fraction `rest / whole` below it, without trailing zeros. -/
private def decimal (n rest whole : Nat) : String :=
  let digits := (Nat.toDigits 10 (whole + rest)).drop 1
  let fraction := (digits.reverse.dropWhile (· == '0')).reverse
  if rest = 0 then toString n else toString n ++ "." ++ String.ofList fraction

/-- A span in the largest of the units second, millisecond, microsecond and nanosecond that it fills. -/
def text (d : Span) : String :=
  if d ≥ 1000000000 then decimal (d / 1000000000) (d % 1000000000) 1000000000 ++ "s"
  else if d ≥ 1000000 then decimal (d / 1000000) (d % 1000000) 1000000 ++ "ms"
  else if d ≥ 1000 then decimal (d / 1000) (d % 1000) 1000 ++ "µs"
  else decimal d 0 1 ++ "ns"

end Span

end Flotilla
