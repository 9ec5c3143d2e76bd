import Flotilla.Endpoint.Host
import Flotilla.Node.Identity

/-!
# Endpoints

The endpoint of a node is the web address made of its host and port.  What stands in the host is taken
as part of an address, so that a path, a query or a user name in it ends up where it belongs.
-/

namespace Flotilla

/-- The parts of a web address, in normal form. -/
structure Endpoint where
  /-- User name and password with the sign that ends them. -/
  user : List Char
  host : List Char
  /-- The port, unless it is the usual one. -/
  port : Option Nat
  path : List Char
  query : Option (List Char)
  fragment : Option (List Char)
  deriving DecidableEq, Inhabited

namespace Endpoint

open Text (splitAt join)

/-- The port of addresses that name none. -/
def usualPort : Nat := 80

def text (e : Endpoint) : String :=
  let port := match e.port with
    | some p => ':' :: Nat.toDigits 10 p
    | none => []
  let query := match e.query with
    | some q => '?' :: q
    | none => []
  let fragment := match e.fragment with
    | some f => '#' :: f
    | none => []
  "http://" ++ String.ofList (e.user ++ e.host ++ port ++ e.path ++ query ++ fragment)

def address (e : Endpoint) : String :=
  String.ofList e.host ++ ":" ++ toString (e.port.getD usualPort)

/-- Whether a channel can be opened: the host holds none of a few signs that a name may hold. -/
def isDialable (e : Endpoint) : Bool := e.host.all fun c => !(['"', '\x60', '\x7b', '\x7d'].contains c)

/-! ### Reading -/

/-- Whether a character ends the part of an address that names user, host and port. -/
def endsAuthority (c : Char) : Bool := c == '/' || c == '\\' || c == '?' || c == '#'

/-- The characters before and after the last at sign, if there is one. -/
def splitUser (cs : List Char) : Option (List Char) × List Char :=
  match cs.reverse.span (· != '@') with
  | (_, []) => (none, cs)
  | (after, _ :: before) => (some before.reverse, after.reverse)

/-- User name and password, encoded, with a colon between them and an at sign after them. -/
def userText (user : List Char) : List Char :=
  match user.span (· != ':') with
  | (name, []) => if name.isEmpty then [] else percentEncode userSet name ++ ['@']
  | (name, _ :: password) =>
    let name := percentEncode userSet name
    let password := percentEncode userSet password
    if name.isEmpty && password.isEmpty then []
    else if password.isEmpty then name ++ ['@']
    else name ++ ':' :: password ++ ['@']

/-- The host up to a colon outside of brackets, and what follows. -/
def splitHost : Bool → List Char → List Char × List Char
  | _, [] => ([], [])
  | inBrackets, c :: cs =>
    if c = ':' ∧ !inBrackets then ([], c :: cs)
    else
      let (h, rest) := splitHost (c == '[' || (inBrackets && c != ']')) cs
      (c :: h, rest)

/-- The port after a colon; the usual port and no digits at all stand for none. -/
def readPort : List Char → Except EndpointError (Option Nat)
  | ':' :: ds =>
    let n := ds.foldl (fun n c => 10 * n + (c.toNat - 48)) 0
    if !ds.all (·.isDigit) || n ≥ 65536 then .error .invalidPort
    else .ok (if ds.isEmpty || n = usualPort then none else some n)
  | _ => .ok none

/-- Whether a segment of a path means its own place. -/
def isDot (segment : List Char) : Bool :=
  [['.'], "%2e".toList].contains (segment.map Char.toLower)

/-- Whether a segment of a path means the place above. -/
def isDoubleDot (segment : List Char) : Bool :=
  [['.', '.'], ".%2e".toList, "%2e.".toList, "%2e%2e".toList].contains (segment.map Char.toLower)

/-- Resolves the segments that mean a place; `done` holds the segments so far, the last one first. -/
def resolve (done : List (List Char)) : List (List Char) → List (List Char)
  | [] => done.reverse
  | [last] =>
    if isDoubleDot last then (([] : List Char) :: done.drop 1).reverse
    else if isDot last then ([] :: done).reverse
    else (last :: done).reverse
  | s :: rest =>
    if isDoubleDot s then resolve (done.drop 1) rest
    else if isDot s then resolve done rest
    else resolve (s :: done) rest

def pathText (cs : List Char) : List Char :=
  let cs := cs.map fun c => if c = '\\' then '/' else c
  let segments := (splitAt '/' (cs.drop 1)).map (percentEncode pathSet)
  '/' :: join '/' (resolve [] segments)

/-- The endpoint that the characters after the scheme write. -/
def read (cs : List Char) : Except EndpointError Endpoint := do
  let cs := cs.filter fun c => c != '\t' && c != '\n' && c != '\r'
  let cs := cs.dropWhile fun c => c == '/' || c == '\\'
  let (authority, rest) := cs.span fun c => !endsAuthority c
  let (user, hostPort) := splitUser authority
  let (h, p) := splitHost false hostPort
  if h.isEmpty then .error .emptyHost
  let h ← normalHost h
  let port ← readPort p
  let (path, rest) := rest.span fun c => c != '?' && c != '#'
  let (query, rest) := rest.span (· != '#')
  return {
    user := userText (user.getD [])
    host := h
    port
    path := pathText path
    query := if query.isEmpty then none else some (percentEncode querySet (query.drop 1))
    fragment := if rest.isEmpty then none else some (percentEncode fragmentSet (rest.drop 1)) }

end Endpoint

def Identity.endpoint (i : Identity) : Except EndpointError Endpoint := Endpoint.read i.address.toList

end Flotilla
