import Flotilla.DomainName.Mark

/-!
# Joiners

Two characters that are not seen say whether the letters beside them are joined.  A joiner may stand behind
a virama; a nonjoiner also between two letters that would be joined without it.  The table holds for the
characters that may stand in domain names.
-/

namespace Flotilla.DomainName

open Text

/-- The sides on which a letter is joined to others; a transparent character is passed over. -/
inductive Joining where
  | none
  | left
  | right
  | both
  | transparent
  deriving DecidableEq, Repr, Inhabited

namespace Joining

def read : List Char → Joining
  | ['l'] => .left
  | ['r'] => .right
  | ['d'] => .both
  | ['t'] => .transparent
  | _ => .none

/-- The joined sides of characters other than nonspacing marks. -/
def rows : List String :=
  ["21:- 620:d 621:- 622:r 626:d 627:r 628:d 629:r 62a:d 62f:r 633:d 640:- 641:d 648:r 649:d 660:- 66e:d",
    "671:r 674:- 679:d 688:r 69a:d 6c0:r 6c1:d 6c3:r 6cc:d 6cd:r 6ce:d 6cf:r 6d0:d 6d2:r 6d4:- 6d5:r 6de:-",
    "6ee:r 6f0:- 6fa:d 6fd:- 6ff:d 700:- 710:r 712:d 715:r 71a:d 71e:r 71f:d 728:r 729:d 72a:r 72b:d 72c:r",
    "72d:d 72f:r 74e:d 759:r 75c:d 76b:r 76d:d 771:r 772:d 773:r 775:d 778:r 77a:d 780:- 7ca:d 7f4:- 840:r",
    "841:d 846:r 848:d 849:r 84a:d 854:r 855:d 856:r 85e:- 860:d 861:- 862:d 866:- 867:r 868:d 869:r 883:-",
    "886:d 887:- 889:d 88e:r 88f:d 8aa:r 8ad:- 8ae:r 8af:d 8b1:r 8b3:d 8b9:r 8ba:d 8c9:- cbf:t cc0:- cc6:t",
    "cc7:- 1807:d 1808:- 1820:d 1880:- 1887:d 18b0:- a840:d a872:l a873:- 10ac0:d 10ac5:r 10ac6:- 10ac7:r",
    "10ac8:- 10ac9:r 10acb:- 10acd:l 10ace:r 10ad3:d 10ad7:l 10ad8:d 10add:r 10ade:d 10ae1:r 10ae2:- 10ae4:r",
    "10aeb:d 10aef:r 10af0:- 10b80:d 10b81:r 10b82:d 10b83:r 10b86:d 10b89:r 10b8a:d 10b8c:r 10b8d:d 10b8e:r",
    "10b90:d 10b91:r 10b99:- 10ba9:r 10bad:d 10baf:- 10d00:l 10d01:d 10d22:r 10d23:d 10d30:- 10ec2:r 10ec3:d",
    "10ec5:- 10ec6:d 10ed0:- 10f30:d 10f33:r 10f34:d 10f45:- 10f51:d 10f54:r 10f55:- 10f70:d 10f74:r 10f76:d",
    "10f86:- 10fb0:d 10fb1:- 10fb2:d 10fb4:r 10fb7:- 10fb8:d 10fb9:r 10fbb:d 10fbd:r 10fbe:d 10fc0:- 10fc1:d",
    "10fc2:r 10fc4:d 10fc5:- 10fc9:r 10fca:d 10fcb:l 10fe0:- 11a07:t 11a0b:- 11c3f:t 11c40:- 1e922:d 1e94b:t",
    "1e950:-"]

/-- The joined sides of characters other than nonspacing marks. -/
def table : Steps Joining := Steps.read read rows

def ofChar (c : Char) : Joining :=
  if markKind c = .nonspacing then .transparent else table.get .none c.toNat

end Joining

def joiner : Char := '\u200d'

/-- The character that keeps the letters beside it apart. -/
def nonjoiner : Char := '\u200c'

def firstJoining (cs : List Char) : Joining :=
  (((cs.map Joining.ofChar).dropWhile (· == .transparent)).head?).getD .none

/-- Whether each joiner stands where one may; the characters before these come in reverse. -/
def areJoinersSound (before : List Char) : List Char → Bool
  | [] => true
  | c :: rest =>
    let isBehindVirama := before.head?.any fun d => markClass d = viramaClass
    let isSound :=
      if c = joiner then isBehindVirama
      else if c = nonjoiner then
        isBehindVirama || [.left, .both].contains (firstJoining before) &&
          [.right, .both].contains (firstJoining rest)
      else true
    isSound && areJoinersSound (c :: before) rest

end Flotilla.DomainName
