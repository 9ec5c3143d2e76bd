import Flotilla.DomainName.Mark

/-!
# Directions of writing

In a name with letters that are written from right to left, each label has to keep to one direction, so
that labels do not run into each other when they are shown.  The table holds for the characters that may
stand in domain names.
-/

namespace Flotilla.DomainName

open Text

/-- The direction that a character is written in. -/
inductive Direction where
  | leftToRight
  | rightToLeft
  | arabicNumber
  | europeanNumber
  | nonspacing
  | neutral
  deriving DecidableEq, Repr, Inhabited

namespace Direction

def read : List Char → Direction
  | ['l'] => .leftToRight
  | ['r'] => .rightToLeft
  | ['a'] => .arabicNumber
  | ['e'] => .europeanNumber
  | _ => .neutral

/-- The directions of characters other than nonspacing marks. -/
def rows : List String :=
  ["21:n 30:e 3b:n 41:l 5f:n 61:l 7b:n df:l f7:n f8:l 2b9:n 2bb:l 2c2:n 2d0:l 2d2:n 2ee:l 2ef:n 371:l 375:n",
    "377:l 3f6:n 3f8:l 58a:n 5be:r 606:n 608:r 609:n 60b:r 60c:n 60d:r 60e:n 61b:r 660:a 66a:n 66b:a 66d:r",
    "6de:n 6e5:r 6e9:n 6ee:r 6f0:e 6fa:r 7f6:n 7fa:r 903:l 9f2:n 9f4:l 9fb:n 9fc:l af1:n af9:l bf3:n c01:l",
    "c78:n c7f:l e3f:n e40:l f3a:n f3e:l 1390:n 13a0:l 1400:n 1401:l 169b:n 16a0:l 17db:n 17dc:l 17f0:n",
    "1810:l 1940:n 1946:l 19de:n 1a00:l 200c:n 214e:l 218a:n 2336:l 237b:n 2395:l 2396:n 26ac:l 26ad:n",
    "2800:l 2900:n 2c30:l 2ce5:n 2cec:l 2cf9:n 2d00:l 2e00:n 3005:l 3008:n 3021:l 3030:n 3031:l 3037:n",
    "303b:l 303d:n 3041:l 30a0:n 30a1:l 30fb:n 30fc:l 31c0:n 31f0:l 4dc0:n 4e00:l a490:n a4d0:l a60d:n",
    "a610:l a673:n a681:l a700:n a723:l a788:n a789:l a828:n a830:l a838:n a840:l a874:n a880:l ab6a:n",
    "abc0:l fbb2:r fbc3:n fe73:r 10000:l 10101:n 10102:l 10140:n 1018d:l 10190:n 101d0:l 102e1:e 10300:l",
    "10800:r 1091f:n 10920:r 10b39:n 10b40:r 10d30:a 10d40:r 10d6e:n 10d6f:r 10e60:a 10e80:r 10ed0:n 10f00:r",
    "11000:l 11052:n 11066:l 11660:n 11680:l 11fd5:n 11fff:l 16fe2:n 16fe3:l 1cc00:n 1cf50:l 1d1e9:n 1d2c0:l",
    "1d300:n 1d360:l 1e2ff:n 1e4d0:l 1e800:r 1eef0:n 1f150:l 1f16d:n 1f170:l 1f1ad:n 1f1e6:l 1f260:n 20000:l"]

/-- The directions of characters other than nonspacing marks. -/
def table : Steps Direction := Steps.read read rows

def ofChar (c : Char) : Direction :=
  if markKind c = .nonspacing then .nonspacing else table.get .neutral c.toNat

/-- Whether a direction makes the labels of a name keep to one direction each. -/
def isRightward (d : Direction) : Bool := d == .rightToLeft || d == .arabicNumber

/-- Whether a label keeps to one direction.  Its first character sets the direction, and marks at its end do
not count. -/
def isSingle : List Direction → Bool
  | [] => true
  | first :: others =>
    let rest := (others.reverse.dropWhile (· == .nonspacing)).reverse
    match first, rest.getLast? with
    | .leftToRight, none | .rightToLeft, none => true
    | .leftToRight, some last =>
      (last == .leftToRight || last == .europeanNumber) && !rest.any isRightward
    | .rightToLeft, some last =>
      (isRightward last || last == .europeanNumber) && !rest.contains .leftToRight &&
        !(rest.contains .europeanNumber && rest.contains .arabicNumber)
    | _, _ => false

end Direction

end Flotilla.DomainName
