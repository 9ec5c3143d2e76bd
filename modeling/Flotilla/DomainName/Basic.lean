import Flotilla.DomainName.Composition
import Flotilla.DomainName.Direction
import Flotilla.DomainName.Image
import Flotilla.DomainName.Joining
import Flotilla.DomainName.Punycode

/-!
# Domain names

A domain name is labels with dots between them.  In its ASCII form each label that has letters beyond ASCII
is written in punycode.
-/

namespace Flotilla.DomainName

open Text

/-- Characters that no domain name may hold. -/
def isForbidden (c : Char) : Bool :=
  c.toNat ≤ 0x20 || c.toNat == 0x7f ||
    ['#', '/', ':', '<', '>', '?', '@', '[', '\\', ']', '^', '|', '%'].contains c

def isAscii (c : Char) : Bool := c.toNat < 128

/-- What a label in punycode starts with. -/
def punycodeMark : List Char := ['x', 'n', '-', '-']

/-- The greatest length of a label that has letters beyond ASCII. -/
def maxLabelLength : Nat := 1000

def maxPunycodeLength : Nat := 2000

/-- The characters that a label stands for.  One in punycode stands for a label that has letters beyond
ASCII and is in its composed form. -/
def plainLabel? (label : List Char) : Option (List Char) :=
  if punycodeMark.isPrefixOf label then
    let code := label.drop punycodeMark.length
    if code.length > maxPunycodeLength || code.getLast? == some '-' || !code.all isAscii then none
    else do
      let plain ← Punycode.decode? code
      let isAllowed := plain.all fun c => isValid c && !isForbidden c && c != '.'
      if isAllowed && !plain.all isAscii && Composition.compose plain == plain then some plain else none
  else some label

/-- Whether a label starts with no mark, has its joiners where they may stand, and is not too long. -/
def isSound (label : List Char) : Bool :=
  !label.head?.any isMark && areJoinersSound [] label &&
    (label.all isAscii || label.length ≤ maxLabelLength)

/-- Whether labels keep to one direction each if they have to. -/
def areDirectionsSound (labels : List (List Char)) : Bool :=
  let directions := labels.map fun label => label.map Direction.ofChar
  !directions.any (fun ds => ds.any Direction.isRightward) || directions.all Direction.isSingle

def asciiLabel (label : List Char) : List Char :=
  if label.all isAscii then label else punycodeMark ++ Punycode.encode label

def toAscii? (name : List Char) : Option (List Char) := do
  let image := Composition.compose (← name.mapM image?).flatten
  if image.any isForbidden then none
  let labels := splitAt '.' image
  let plain ← labels.mapM plainLabel?
  if plain.all isSound && areDirectionsSound plain then return join '.' (labels.map asciiLabel) else none

end Flotilla.DomainName
