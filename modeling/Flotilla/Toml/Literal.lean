import Flotilla.Text.Hex
import Flotilla.Toml.Basic

/-!
# Texts, numbers and moments of TOML

Each reader takes what it knows from the front of a list of characters and gives the rest.
-/

namespace Flotilla.Toml

/-- Blanks within a line. -/
def isBlank (c : Char) : Bool := c == ' ' || c == '\t'

def skipBlanks (cs : List Char) : List Char := cs.dropWhile isBlank

/-- Characters that stand for themselves: the tabulator and all that is no control character of ASCII. -/
def isPlain (c : Char) : Bool := c == '\t' || (0x20 ≤ c.toNat && c.toNat != 0x7f)

/-- The characters after the end of a line, if it is here. -/
def newline? : List Char → Option (List Char)
  | '\n' :: rest => some rest
  | '\r' :: '\n' :: rest => some rest
  | _ => none

/-! ### Texts -/

def scalar? (n : Nat) : Option Char := if n.isValidChar then some (Char.ofNat n) else none

def shortEscape? : Char → Option Char
  | 'b' => some '\x08'
  | 't' => some '\t'
  | 'n' => some '\n'
  | 'f' => some '\x0c'
  | 'r' => some '\r'
  | '"' => some '"'
  | '\\' => some '\\'
  | _ => none

/-- Puts a character before a text that was read. -/
def cons (c : Char) (p : List Char × List Char) : List Char × List Char := (c :: p.1, p.2)

/-- A text with escapes up to its closing quotation mark. -/
def basicText : List Char → Option (List Char × List Char)
  | '"' :: rest => some ([], rest)
  | '\\' :: 'u' :: a :: b :: c :: d :: rest => do
    let x ← scalar? (← Text.hexNumber? [a, b, c, d])
    return cons x (← basicText rest)
  | '\\' :: 'U' :: a :: b :: c :: d :: e :: f :: g :: h :: rest => do
    let x ← scalar? (← Text.hexNumber? [a, b, c, d, e, f, g, h])
    return cons x (← basicText rest)
  | '\\' :: c :: rest => do
    let x ← shortEscape? c
    return cons x (← basicText rest)
  | c :: rest => if isPlain c && c != '\\' then (basicText rest).map (cons c) else none
  | [] => none

/-- A text without escapes up to its closing apostrophe. -/
def literalText : List Char → Option (List Char × List Char)
  | '\'' :: rest => some ([], rest)
  | c :: rest => if isPlain c then (literalText rest).map (cons c) else none
  | [] => none

/-- Whether only blanks come before the end of the line. -/
def endsLine (cs : List Char) : Bool := (newline? (skipBlanks cs)).isSome

/-- A text of several lines with escapes up to three closing quotation marks, before which one or two
more may stand.  A backslash at the end of a line skips (`skipping`) to the next visible character. -/
def longBasicText : Bool → List Char → Option (List Char × List Char)
  | true, '\r' :: '\n' :: rest => longBasicText true rest
  | true, '\n' :: rest => longBasicText true rest
  | true, ' ' :: rest => longBasicText true rest
  | true, '\t' :: rest => longBasicText true rest
  | _, '"' :: '"' :: '"' :: '"' :: '"' :: rest => some (['"', '"'], rest)
  | _, '"' :: '"' :: '"' :: '"' :: rest => some (['"'], rest)
  | _, '"' :: '"' :: '"' :: rest => some ([], rest)
  | _, '\r' :: '\n' :: rest => (longBasicText false rest).map (cons '\n')
  | _, '\n' :: rest => (longBasicText false rest).map (cons '\n')
  | _, '\\' :: 'u' :: a :: b :: c :: d :: rest => do
    let x ← scalar? (← Text.hexNumber? [a, b, c, d])
    return cons x (← longBasicText false rest)
  | _, '\\' :: 'U' :: a :: b :: c :: d :: e :: f :: g :: h :: rest => do
    let x ← scalar? (← Text.hexNumber? [a, b, c, d, e, f, g, h])
    return cons x (← longBasicText false rest)
  | _, '\\' :: c :: rest =>
    if endsLine (c :: rest) then longBasicText true rest
    else do
      let x ← shortEscape? c
      return cons x (← longBasicText false rest)
  | _, c :: rest => if isPlain c && c != '\\' then (longBasicText false rest).map (cons c) else none
  | _, [] => none

/-- A text of several lines without escapes up to three closing apostrophes, before which one or two
more may stand. -/
def longLiteralText : List Char → Option (List Char × List Char)
  | '\'' :: '\'' :: '\'' :: '\'' :: '\'' :: rest => some (['\'', '\''], rest)
  | '\'' :: '\'' :: '\'' :: '\'' :: rest => some (['\''], rest)
  | '\'' :: '\'' :: '\'' :: rest => some ([], rest)
  | '\r' :: '\n' :: rest => (longLiteralText rest).map (cons '\n')
  | '\n' :: rest => (longLiteralText rest).map (cons '\n')
  | c :: rest => if isPlain c then (longLiteralText rest).map (cons c) else none
  | [] => none

/-- The characters after a line end that directly follows the opening of a text of several lines. -/
def skipFirstNewline (cs : List Char) : List Char := (newline? cs).getD cs

/-- A text in any of its four forms. -/
def text? : List Char → Option (List Char × List Char)
  | '"' :: '"' :: '"' :: rest => longBasicText false (skipFirstNewline rest)
  | '"' :: rest => basicText rest
  | '\'' :: '\'' :: '\'' :: rest => longLiteralText (skipFirstNewline rest)
  | '\'' :: rest => literalText rest
  | _ => none

/-! ### Numbers -/

/-- Digits, between which single underscores may stand; gives the digits alone. -/
def digitRun (isDigit : Char → Bool) : List Char → List Char × List Char
  | '_' :: c :: rest =>
    if isDigit c then cons c (digitRun isDigit rest) else ([], '_' :: c :: rest)
  | c :: rest => if isDigit c then cons c (digitRun isDigit rest) else ([], c :: rest)
  | [] => ([], [])

def digits? (isDigit : Char → Bool) : List Char → Option (List Char × List Char)
  | c :: rest => if isDigit c then some (cons c (digitRun isDigit rest)) else none
  | [] => none

def ofDigits (base : Nat) (ds : List Char) : Nat :=
  ds.foldl (fun n c => base * n + (Text.hexValue? c).getD 0) 0

/-- A whole number that fits 64 bits with sign. -/
def int64? (n : Int) : Option Toml := if Word.fitsSigned n then some (.int (Int64.ofInt n)) else none

/-- A whole number in another base. -/
def radixInt? (base : Nat) (cs : List Char) : Option (Toml × List Char) := do
  let isDigit (c : Char) : Bool := (Text.hexValue? c).any (· < base)
  let (ds, rest) ← digits? isDigit cs
  return (← int64? (ofDigits base ds), rest)

/-- The decimal digits of a whole number, which start with a zero only if they are one. -/
def decimalDigits? : List Char → Option (List Char × List Char)
  | '0' :: rest => some (['0'], rest)
  | cs => digits? (·.isDigit) cs

/-- The exponent of a number, if there is one: zero and the same characters if there is none. -/
def exponent? : List Char → Option (Option Int × List Char)
  | c :: rest =>
    if c == 'e' || c == 'E' then do
      let (down, rest) := match rest with
        | '-' :: r => (true, r)
        | '+' :: r => (false, r)
        | r => (false, r)
      let (ds, rest) ← digits? (·.isDigit) rest
      let n : Int := ofDigits 10 ds
      return (some (if down then -n else n), rest)
    else some (none, c :: rest)
  | [] => some (none, [])

/-- The fraction of a number, if there is one: no digit and the same characters if there is none. -/
def fraction? : List Char → Option (Option (List Char) × List Char)
  | '.' :: rest => (digits? (·.isDigit) rest).map fun p => (some p.1, p.2)
  | cs => some (none, cs)

/-- The nearest floating-point number; a positive one that is too large is refused. -/
def float? (negative : Bool) (digits : List Char) (power : Int) : Option Toml :=
  match Binary64.ofDecimal? negative (ofDigits 10 digits) power with
  | some x => some (.float (.finite x))
  | none => if negative then some (.float (.infinite true)) else none

/-- A decimal number after its sign. -/
def decimal? (negative : Bool) (cs : List Char) : Option (Toml × List Char) :=
  match cs with
  | 'i' :: 'n' :: 'f' :: rest => some (.float (.infinite negative), rest)
  | 'n' :: 'a' :: 'n' :: rest => some (.float .nan, rest)
  | cs => do
    let (whole, rest) ← decimalDigits? cs
    let (fraction, rest) ← fraction? rest
    let (exponent, rest) ← exponent? rest
    match fraction, exponent with
    | none, none =>
      let n : Int := ofDigits 10 whole
      return (← int64? (if negative then -n else n), rest)
    | _, _ =>
      let fraction := fraction.getD []
      return (← float? negative (whole ++ fraction) (exponent.getD 0 - fraction.length), rest)

def number? : List Char → Option (Toml × List Char)
  | '0' :: 'x' :: rest => radixInt? 16 rest
  | '0' :: 'o' :: rest => radixInt? 8 rest
  | '0' :: 'b' :: rest => radixInt? 2 rest
  | '-' :: rest => decimal? true rest
  | '+' :: rest => decimal? false rest
  | cs => decimal? false cs

/-! ### Moments -/

def twoDigits? : List Char → Option (Nat × List Char)
  | a :: b :: rest => if a.isDigit && b.isDigit then some (ofDigits 10 [a, b], rest) else none
  | _ => none

/-- The characters after a given one. -/
def expect (c : Char) : List Char → Option (List Char)
  | d :: rest => if c = d then some rest else none
  | [] => none

def date? : List Char → Option (Date × List Char)
  | a :: b :: rest => do
    let (century, _) ← twoDigits? [a, b]
    let (year, rest) ← twoDigits? rest
    let (month, rest) ← twoDigits? (← expect '-' rest)
    let (day, rest) ← twoDigits? (← expect '-' rest)
    return (← Date.of? (100 * century + year) month day, rest)
  | _ => none

/-- The nanoseconds that the digits of a fraction of a second write; digits after the ninth are left
out. -/
def nanoseconds (ds : List Char) : Nat := ofDigits 10 ((ds ++ List.replicate 9 '0').take 9)

def time? (cs : List Char) : Option (Time × List Char) := do
  let (hour, rest) ← twoDigits? cs
  let (minute, rest) ← twoDigits? (← expect ':' rest)
  let (second, rest) ← twoDigits? (← expect ':' rest)
  let (nanos, rest) ← match rest with
    | '.' :: rest =>
      match rest.span (·.isDigit) with
      | ([], _) => none
      | (ds, rest) => some (nanoseconds ds, rest)
    | rest => some (0, rest)
  return (← Time.of? hour minute second nanos, rest)

def offset? : List Char → Option (Option Offset × List Char)
  | c :: rest =>
    if c == 'Z' || c == 'z' then some (some .zulu, rest)
    else if c == '+' || c == '-' then do
      let (hours, rest) ← twoDigits? rest
      let (minutes, rest) ← twoDigits? (← expect ':' rest)
      return (some (← Offset.of? (c == '-') hours minutes), rest)
    else some (none, c :: rest)
  | [] => some (none, [])

/-- Whether the characters start like a date: four digits and a hyphen. -/
def startsDate : List Char → Bool
  | a :: b :: c :: d :: '-' :: _ => a.isDigit && b.isDigit && c.isDigit && d.isDigit
  | _ => false

/-- Whether the characters start like a time: two digits and a colon. -/
def startsTime : List Char → Bool
  | a :: b :: ':' :: _ => a.isDigit && b.isDigit
  | _ => false

/-- A date, a time, or both with a letter T or a space between them. -/
def moment? (cs : List Char) : Option (Moment × List Char) :=
  if startsTime cs then (time? cs).map fun p => (⟨none, some p.1, none⟩, p.2)
  else do
    let (date, rest) ← date? cs
    match rest with
    | c :: rest' =>
      if (c == 'T' || c == 't' || c == ' ') && startsTime rest' then
        let (time, rest) ← time? rest'
        let (offset, rest) ← offset? rest
        return (⟨some date, some time, offset⟩, rest)
      else return (⟨some date, none, none⟩, rest)
    | [] => return (⟨some date, none, none⟩, [])

def momentOfText? (s : String) : Option Moment :=
  match moment? s.toList with
  | some (m, []) => some m
  | _ => none

end Flotilla.Toml
