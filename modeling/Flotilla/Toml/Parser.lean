import Flotilla.Toml.Draft

/-!
# Reading TOML documents

A document is read line by line into statements, which are then assembled into a table.
-/

namespace Flotilla.Toml

/-- Values and the segments of a key may be nested less deep than this. -/
def nestingLimit : Nat := 80

/-! ### Lines -/

/-- The characters after the end of a line, before which blanks and a comment may stand. -/
def lineEnd? (cs : List Char) : Option (List Char) :=
  let rest := match skipBlanks cs with
    | '#' :: rest => rest.dropWhile isPlain
    | rest => rest
  match rest with
  | [] => some []
  | rest => newline? rest

/-- The characters after blanks, line ends and comments (`inComment`). -/
def skipFiller : Bool → List Char → List Char
  | false, ' ' :: rest => skipFiller false rest
  | false, '\t' :: rest => skipFiller false rest
  | false, '#' :: rest => skipFiller true rest
  | _, '\n' :: rest => skipFiller false rest
  | _, '\r' :: '\n' :: rest => skipFiller false rest
  | true, c :: rest => if isPlain c then skipFiller true rest else c :: rest
  | false, c :: rest => c :: rest
  | _, [] => []

/-! ### Keys -/

/-- Characters of a key without quotation marks. -/
def isKeyChar (c : Char) : Bool := c.isAlphanum || c == '_' || c == '-'

def segment? : List Char → Option (String × List Char)
  | '"' :: rest => (basicText rest).map fun p => (String.ofList p.1, p.2)
  | '\'' :: rest => (literalText rest).map fun p => (String.ofList p.1, p.2)
  | cs =>
    match cs.span isKeyChar with
    | ([], _) => none
    | (ds, rest) => some (String.ofList ds, rest)

/-- The segments of a key, separated by dots, with blanks around each. -/
def segments? : Nat → List Char → Option (List String × List Char)
  | 0, _ => none
  | fuel + 1, cs => do
    let (s, rest) ← segment? (skipBlanks cs)
    match skipBlanks rest with
    | '.' :: rest =>
      let (ss, rest) ← segments? fuel rest
      return (s :: ss, rest)
    | rest => return ([s], rest)

/-- A key: the segments before the last one, and the last one. -/
def key? (cs : List Char) : Option (List String × String × List Char) := do
  let (ss, rest) ← segments? (nestingLimit - 1) cs
  return (ss.dropLast, ← ss.getLast?, rest)

/-! ### Values -/

/-- A value without parts. -/
def scalarValue? (cs : List Char) : Option (Toml × List Char) :=
  match cs with
  | '"' :: _ | '\'' :: _ => (text? cs).map fun p => (.text (String.ofList p.1), p.2)
  | 't' :: 'r' :: 'u' :: 'e' :: rest => some (.bool true, rest)
  | 'f' :: 'a' :: 'l' :: 's' :: 'e' :: rest => some (.bool false, rest)
  | cs =>
    if startsDate cs || startsTime cs then (moment? cs).map fun p => (.moment p.1, p.2)
    else number? cs

mutual

/-- Reads one value; `depth` says how much deeper lists and tables may be nested. -/
def value? : Nat → Nat → List Char → Option (Draft × List Char)
  | 0, _, _ => none
  | fuel + 1, depth, cs =>
    match cs with
    | '[' :: rest =>
      if depth = 0 then none
      else (items? fuel (depth - 1) rest).map fun p => (.list p.1, p.2)
    | '\x7b' :: rest =>
      if depth = 0 then none
      else do
        let (entries, rest) ← match skipBlanks rest with
          | '\x7d' :: rest => some ([], rest)
          | rest => entries? fuel (depth - 1) rest
        return (← Draft.ofEntries? entries, rest)
    | cs => (scalarValue? cs).map fun p => (.value p.1, p.2)

/-- Reads the items of a list up to its closing bracket; a comma may stand after the last one. -/
def items? : Nat → Nat → List Char → Option (List Draft × List Char)
  | 0, _, _ => none
  | fuel + 1, depth, cs =>
    match skipFiller false cs with
    | ']' :: rest => some ([], rest)
    | cs => do
      let (v, rest) ← value? fuel depth cs
      match skipFiller false rest with
      | ']' :: rest => return ([v], rest)
      | ',' :: rest =>
        let (vs, rest) ← items? fuel depth rest
        return (v :: vs, rest)
      | _ => none

/-- Reads the entries of a table in braces up to its closing brace. -/
def entries? : Nat → Nat → List Char → Option (List (List String × String × Draft) × List Char)
  | 0, _, _ => none
  | fuel + 1, depth, cs => do
    let (path, key, rest) ← key? cs
    let (v, rest) ← value? fuel depth (skipBlanks (← expect '=' rest))
    match skipBlanks rest with
    | '\x7d' :: rest => return ([(path, key, v)], rest)
    | ',' :: rest =>
      let (es, rest) ← entries? fuel depth rest
      return ((path, key, v) :: es, rest)
    | _ => none

end

/-! ### Documents -/

/-- Reads a statement and the end of its line. -/
def statement? (cs : List Char) : Option (Statement × List Char) :=
  match cs with
  | '[' :: '[' :: rest => do
    let (path, key, rest) ← key? rest
    return (.listHeader path key, ← lineEnd? (← expect ']' (← expect ']' rest)))
  | '[' :: rest => do
    let (path, key, rest) ← key? rest
    return (.header path key, ← lineEnd? (← expect ']' rest))
  | cs => do
    let (path, key, rest) ← key? cs
    let (v, rest) ← value? (2 * cs.length) (nestingLimit - 1) (skipBlanks (← expect '=' rest))
    return (.entry path key v, ← lineEnd? rest)

/-- Reads statements, at most `fuel` lines of them. -/
def statements? : Nat → List Char → Option (List Statement)
  | 0, cs => if cs.isEmpty then some [] else none
  | fuel + 1, cs =>
    match skipBlanks cs with
    | [] => some []
    | cs =>
      match lineEnd? cs with
      | some rest => statements? fuel rest
      | none => do
        let (s, rest) ← statement? cs
        return s :: (← statements? fuel rest)

/-- The entries of the table that a document writes. -/
def parse? (s : String) : Option (List (String × Toml)) :=
  let cs := match s.toList with
    | '\ufeff' :: cs => cs
    | cs => cs
  (statements? (cs.length + 1) cs).bind assemble?

end Flotilla.Toml
