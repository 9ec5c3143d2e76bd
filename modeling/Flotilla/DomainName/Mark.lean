import Flotilla.Text.Steps

/-!
# Marks

A mark joins the character before it.  Its class says where it stands there: marks of different classes
do not touch each other, so that their order says nothing, and other characters have the class 0.  The
tables hold for the characters that may stand in domain names.
-/

namespace Flotilla.DomainName

open Text

/-- Whether a character is a mark, and one that takes room of its own. -/
inductive MarkKind where
  | none
  | spacing
  | nonspacing
  deriving DecidableEq, Repr, Inhabited

def MarkKind.read : List Char → MarkKind
  | ['s'] => .spacing
  | ['n'] => .nonspacing
  | _ => .none

/-- The kinds of marks; a hyphen stands for characters that are none. -/
def markRows : List String :=
  ["21:- 300:n 371:- 483:n 48b:- 591:n 5be:- 5bf:n 5c0:- 5c1:n 5c3:- 5c4:n 5c6:- 5c7:n 5d0:- 610:n 61b:-",
    "64b:n 660:- 670:n 671:- 6d6:n 6de:- 6df:n 6e5:- 6e7:n 6e9:- 6ea:n 6ee:- 711:n 712:- 730:n 74d:- 7a6:n",
    "7b1:- 7eb:n 7f4:- 7fd:n 7fe:- 816:n 81a:- 81b:n 824:- 825:n 828:- 829:n 830:- 859:n 85e:- 897:n 8a0:-",
    "8ca:n 903:s 904:- 93a:n 93b:s 93c:n 93d:- 93e:s 941:n 949:s 94d:n 94e:s 950:- 951:n 960:- 962:n 964:-",
    "981:n 982:s 985:- 9bc:n 9bd:- 9be:s 9c1:n 9c7:s 9cd:n 9ce:- 9d7:s 9e0:- 9e2:n 9e6:- 9fe:n a03:s a05:-",
    "a3c:n a3e:s a41:n a5c:- a70:n a72:- a75:n a76:- a81:n a83:s a85:- abc:n abd:- abe:s ac1:n ac9:s acd:n",
    "ad0:- ae2:n ae6:- afa:n b02:s b05:- b3c:n b3d:- b3e:s b3f:n b40:s b41:n b47:s b4d:n b57:s b5f:- b62:n",
    "b66:- b82:n b83:- bbe:s bc0:n bc1:s bcd:n bd0:- bd7:s be6:- c00:n c01:s c04:n c05:- c3c:n c3d:- c3e:n",
    "c41:s c46:n c58:- c62:n c66:- c81:n c82:s c84:- cbc:n cbd:- cbe:s ccc:n cd5:s cdc:- ce2:n ce6:- cf3:s",
    "d00:n d02:s d04:- d3b:n d3d:- d3e:s d41:n d46:s d4d:n d4e:- d57:s d58:- d62:n d66:- d81:n d82:s d85:-",
    "dca:n dcf:s dd2:n dd8:s de6:- df2:s df4:- e31:n e32:- e34:n e3f:- e47:n e4f:- eb1:n eb2:- eb4:n ebd:-",
    "ec8:n ed0:- f18:n f1a:- f35:n f36:- f37:n f38:- f39:n f3a:- f3e:s f40:- f71:n f7f:s f80:n f85:- f86:n",
    "f88:- f8d:n fbe:- fc6:n fc7:- 102b:s 102d:n 1031:s 1032:n 1038:s 1039:n 103b:s 103d:n 103f:- 1056:s",
    "1058:n 105a:- 105e:n 1061:- 1062:s 1065:- 1067:s 106e:- 1071:n 1075:- 1082:n 1083:s 1085:n 1087:s",
    "108d:n 108e:- 108f:s 1090:- 109a:s 109d:n 109e:- 135d:n 1360:- 1712:n 1715:s 171f:- 1732:n 1734:s",
    "1735:- 1752:n 1760:- 1772:n 1780:- 17b6:s 17b7:n 17be:s 17c6:n 17c7:s 17c9:n 17d4:- 17dd:n 17e0:-",
    "1885:n 1887:- 18a9:n 18aa:- 1920:n 1923:s 1927:n 1929:s 1932:n 1933:s 1939:n 1940:- 1a17:n 1a19:s",
    "1a1b:n 1a1e:- 1a55:s 1a56:n 1a57:s 1a58:n 1a61:s 1a62:n 1a63:s 1a65:n 1a6d:s 1a73:n 1a80:- 1ab0:n",
    "1b04:s 1b05:- 1b34:n 1b35:s 1b36:n 1b3b:s 1b3c:n 1b3d:s 1b42:n 1b43:s 1b45:- 1b6b:n 1b74:- 1b80:n",
    "1b82:s 1b83:- 1ba1:s 1ba2:n 1ba6:s 1ba8:n 1baa:s 1bab:n 1bae:- 1be6:n 1be7:s 1be8:n 1bea:s 1bed:n",
    "1bee:s 1bef:n 1bf2:s 1bfc:- 1c24:s 1c2c:n 1c34:s 1c36:n 1c3b:- 1cd0:n 1cd3:- 1cd4:n 1ce1:s 1ce2:n",
    "1ce9:- 1ced:n 1cee:- 1cf4:n 1cf5:- 1cf7:s 1cf8:n 1cfa:- 1dc0:n 1e01:- 20d0:n 2104:- 2cef:n 2cf3:-",
    "2d7f:n 2d80:- 2de0:n 2e00:- 302a:n 302e:s 3030:- 3099:n 309d:- a66f:n a673:- a674:n a67e:- a69e:n",
    "a6a0:- a6f0:n a6f2:- a802:n a803:- a806:n a807:- a80b:n a80c:- a823:s a825:n a827:s a828:- a82c:n",
    "a830:- a880:s a882:- a8b4:s a8c4:n a8ce:- a8e0:n a8f2:- a8ff:n a900:- a926:n a92e:- a947:n a952:s",
    "a95f:- a980:n a983:s a984:- a9b3:n a9b4:s a9b6:n a9ba:s a9bc:n a9be:s a9c1:- a9e5:n a9e6:- aa29:n",
    "aa2f:s aa31:n aa33:s aa35:n aa40:- aa43:n aa44:- aa4c:n aa4d:s aa50:- aa7b:s aa7c:n aa7d:s aa7e:-",
    "aab0:n aab1:- aab2:n aab5:- aab7:n aab9:- aabe:n aac0:- aac1:n aac2:- aaeb:s aaec:n aaee:s aaf0:-",
    "aaf5:s aaf6:n ab01:- abe3:s abe5:n abe6:s abe8:n abe9:s abeb:- abec:s abed:n abf0:- fb1e:n fbb2:-",
    "fe20:n fe45:- 101fd:n 10280:- 102e0:n 102e1:- 10376:n 10380:- 10a01:n 10a10:- 10a38:n 10a40:- 10ae5:n",
    "10aeb:- 10d24:n 10d30:- 10d69:n 10d6e:- 10eab:n 10ead:- 10efa:n 10f00:- 10f46:n 10f51:- 10f82:n 10f86:-",
    "11000:s 11001:n 11002:s 11003:- 11038:n 11047:- 11070:n 11071:- 11073:n 11075:- 1107f:n 11082:s 11083:-",
    "110b0:s 110b3:n 110b7:s 110b9:n 110bb:- 110c2:n 110d0:- 11100:n 11103:- 11127:n 1112c:s 1112d:n 11136:-",
    "11145:s 11147:- 11173:n 11174:- 11180:n 11182:s 11183:- 111b3:s 111b6:n 111bf:s 111c1:- 111c9:n 111cd:-",
    "111ce:s 111cf:n 111d0:- 1122c:s 1122f:n 11232:s 11234:n 11235:s 11236:n 11238:- 1123e:n 1123f:- 11241:n",
    "11280:- 112df:n 112e0:s 112e3:n 112f0:- 11300:n 11302:s 11305:- 1133b:n 1133d:- 1133e:s 11340:n 11341:s",
    "11350:- 11357:s 1135d:- 11362:s 11366:n 11380:- 113b8:s 113bb:n 113c2:s 113ce:n 113cf:s 113d0:n 113d1:-",
    "113d2:n 113d3:- 113e1:n 11400:- 11435:s 11438:n 11440:s 11442:n 11445:s 11446:n 11447:- 1145e:n 1145f:-",
    "114b0:s 114b3:n 114b9:s 114ba:n 114bb:s 114bf:n 114c1:s 114c2:n 114c4:- 115af:s 115b2:n 115b8:s 115bc:n",
    "115be:s 115bf:n 115c1:- 115dc:n 11600:- 11630:s 11633:n 1163b:s 1163d:n 1163e:s 1163f:n 11641:- 116ab:n",
    "116ac:s 116ad:n 116ae:s 116b0:n 116b6:s 116b7:n 116b8:- 1171d:n 1171e:s 1171f:n 11720:s 11722:n 11726:s",
    "11727:n 11730:- 1182c:s 1182f:n 11838:s 11839:n 1183b:- 11930:s 1193b:n 1193d:s 1193e:n 1193f:- 11940:s",
    "11941:- 11942:s 11943:n 11944:- 119d1:s 119d4:n 119dc:s 119e0:n 119e1:- 119e4:s 11a00:- 11a01:n 11a07:s",
    "11a09:n 11a0b:- 11a33:n 11a39:s 11a3a:- 11a3b:n 11a3f:- 11a47:n 11a50:- 11a51:n 11a57:s 11a59:n 11a5c:-",
    "11a8a:n 11a97:s 11a98:n 11a9a:- 11b60:n 11b61:s 11b62:n 11b65:s 11b66:n 11b67:s 11bc0:- 11c2f:s 11c30:n",
    "11c3e:s 11c40:- 11c92:n 11ca9:s 11caa:n 11cb1:s 11cb2:n 11cb4:s 11cb5:n 11d00:- 11d31:n 11d46:- 11d47:n",
    "11d50:- 11d8a:s 11d90:n 11d93:s 11d95:n 11d96:s 11d97:n 11d98:- 11ef3:n 11ef5:s 11ef7:- 11f00:n 11f02:-",
    "11f03:s 11f04:- 11f34:s 11f36:n 11f3e:s 11f40:n 11f41:s 11f42:n 11f43:- 11f5a:n 11fb0:- 13440:n 13441:-",
    "13447:n 13460:- 1611e:n 1612a:s 1612d:n 16130:- 16af0:n 16af5:- 16b30:n 16b37:- 16f4f:n 16f50:- 16f51:s",
    "16f8f:n 16f93:- 16fe4:n 16ff0:s 16ff2:- 1bc9d:n 1bc9f:- 1cf00:n 1cf50:- 1d165:s 1d167:n 1d16a:- 1d16d:s",
    "1d17b:n 1d183:- 1d185:n 1d18c:- 1d1aa:n 1d1ae:- 1d242:n 1d245:- 1da00:n 1da37:- 1da3b:n 1da6d:- 1da75:n",
    "1da76:- 1da84:n 1da85:- 1da9b:n 1df00:- 1e000:n 1e100:- 1e130:n 1e137:- 1e2ae:n 1e2c0:- 1e2ec:n 1e2f0:-",
    "1e4ec:n 1e4f0:- 1e5ee:n 1e5f0:- 1e6e3:n 1e6e4:- 1e6e6:n 1e6e7:- 1e6ee:n 1e6f0:- 1e6f5:n 1e6fe:- 1e8d0:n",
    "1e922:- 1e944:n 1e94b:-"]

/-- The classes of marks, in hexadecimal digits. -/
def classRows : List String :=
  ["21:0 300:e6 315:e8 316:dc 31a:e8 31b:d8 31c:dc 321:ca 323:dc 327:ca 329:dc 334:1 339:dc 33d:e6 347:dc",
    "34a:e6 34d:dc 350:e6 353:dc 357:e6 358:e8 359:dc 35b:e6 35c:e9 35d:ea 35f:e9 360:ea 362:e9 363:e6 371:0",
    "483:e6 488:0 591:dc 592:e6 596:dc 597:e6 59a:de 59b:dc 59c:e6 5a2:dc 5a8:e6 5aa:dc 5ab:e6 5ad:de 5ae:e4",
    "5af:e6 5b0:a 5b1:b 5b2:c 5b3:d 5b4:e 5b5:f 5b6:10 5b7:11 5b8:12 5b9:13 5bb:14 5bc:15 5bd:16 5be:0",
    "5bf:17 5c0:0 5c1:18 5c2:19 5c3:0 5c4:e6 5c5:dc 5c6:0 5c7:12 5d0:0 610:e6 618:1e 619:1f 61a:20 61b:0",
    "64b:1b 64c:1c 64d:1d 64e:1e 64f:1f 650:20 651:21 652:22 653:e6 655:dc 657:e6 65c:dc 65d:e6 65f:dc 660:0",
    "670:23 671:0 6d6:e6 6de:0 6df:e6 6e3:dc 6e4:e6 6e5:0 6e7:e6 6e9:0 6ea:dc 6eb:e6 6ed:dc 6ee:0 711:24",
    "712:0 730:e6 731:dc 732:e6 734:dc 735:e6 737:dc 73a:e6 73b:dc 73d:e6 73e:dc 73f:e6 742:dc 743:e6 744:dc",
    "745:e6 746:dc 747:e6 748:dc 749:e6 74d:0 7eb:e6 7f2:dc 7f3:e6 7f4:0 7fd:dc 7fe:0 816:e6 81a:0 81b:e6",
    "824:0 825:e6 828:0 829:e6 830:0 859:dc 85e:0 897:e6 899:dc 89c:e6 8a0:0 8ca:e6 8cf:dc 8d4:e6 8e3:dc",
    "8e4:e6 8e6:dc 8e7:e6 8e9:dc 8ea:e6 8ed:dc 8f0:1b 8f1:1c 8f2:1d 8f3:e6 8f6:dc 8f7:e6 8f9:dc 8fb:e6 900:0",
    "93c:7 93d:0 94d:9 94e:0 951:e6 952:dc 953:e6 955:0 9bc:7 9bd:0 9cd:9 9ce:0 9fe:e6 a01:0 a3c:7 a3e:0",
    "a4d:9 a51:0 abc:7 abd:0 acd:9 ad0:0 b3c:7 b3d:0 b4d:9 b55:0 bcd:9 bd0:0 c3c:7 c3d:0 c4d:9 c55:54 c56:5b",
    "c58:0 cbc:7 cbd:0 ccd:9 cd5:0 d3b:9 d3d:0 d4d:9 d4e:0 dca:9 dcf:0 e38:67 e3a:9 e3f:0 e48:6b e4c:0",
    "eb8:76 eba:9 ebb:0 ec8:7a ecc:0 f18:dc f1a:0 f35:dc f36:0 f37:dc f38:0 f39:d8 f3a:0 f71:81 f72:82",
    "f74:84 f7a:82 f7e:0 f80:82 f82:e6 f84:9 f85:0 f86:e6 f88:0 fc6:dc fc7:0 1037:7 1038:0 1039:9 103b:0",
    "108d:dc 108e:0 135d:e6 1360:0 1714:9 171f:0 1734:9 1735:0 17d2:9 17d3:0 17dd:e6 17e0:0 18a9:e4 18aa:0",
    "1939:de 193a:e6 193b:dc 1940:0 1a17:e6 1a18:dc 1a19:0 1a60:9 1a61:0 1a75:e6 1a7f:dc 1a80:0 1ab0:e6",
    "1ab5:dc 1abb:e6 1abd:dc 1abe:0 1abf:dc 1ac1:e6 1ac3:dc 1ac5:e6 1aca:dc 1acb:e6 1add:dc 1ae0:e6 1ae6:dc",
    "1ae7:e6 1aeb:ea 1b00:0 1b34:7 1b35:0 1b44:9 1b45:0 1b6b:e6 1b6c:dc 1b6d:e6 1b74:0 1baa:9 1bac:0 1be6:7",
    "1be7:0 1bf2:9 1bfc:0 1c37:7 1c3b:0 1cd0:e6 1cd3:0 1cd4:1 1cd5:dc 1cda:e6 1cdc:dc 1ce0:e6 1ce1:0 1ce2:1",
    "1ce9:0 1ced:dc 1cee:0 1cf4:e6 1cf5:0 1cf8:e6 1cfa:0 1dc0:e6 1dc2:dc 1dc3:e6 1dca:dc 1dcb:e6 1dcd:ea",
    "1dce:d6 1dcf:dc 1dd0:ca 1dd1:e6 1df6:e8 1df7:e4 1df9:dc 1dfa:da 1dfb:e6 1dfc:e9 1dfd:dc 1dfe:e6 1dff:dc",
    "1e01:0 20d0:e6 20d2:1 20d4:e6 20d8:1 20db:e6 20dd:0 20e1:e6 20e2:0 20e5:1 20e7:e6 20e8:dc 20e9:e6",
    "20ea:1 20ec:dc 20f0:e6 2104:0 2cef:e6 2cf3:0 2d7f:9 2d80:0 2de0:e6 2e00:0 302a:da 302b:e4 302c:e8",
    "302d:de 302e:e0 3030:0 3099:8 309d:0 a66f:e6 a670:0 a674:e6 a67e:0 a69e:e6 a6a0:0 a6f0:e6 a6f2:0 a806:9",
    "a807:0 a82c:9 a830:0 a8c4:9 a8c5:0 a8e0:e6 a8f2:0 a92b:dc a92e:0 a953:9 a95f:0 a9b3:7 a9b4:0 a9c0:9",
    "a9c1:0 aab0:e6 aab1:0 aab2:e6 aab4:dc aab5:0 aab7:e6 aab9:0 aabe:e6 aac0:0 aac1:e6 aac2:0 aaf6:9 ab01:0",
    "abed:9 abf0:0 fb1e:1a fbb2:0 fe20:e6 fe27:dc fe2e:e6 fe45:0 101fd:dc 10280:0 102e0:dc 102e1:0 10376:e6",
    "10380:0 10a0d:dc 10a0e:0 10a0f:e6 10a10:0 10a38:e6 10a39:1 10a3a:dc 10a3f:9 10a40:0 10ae5:e6 10ae6:dc",
    "10aeb:0 10d24:e6 10d30:0 10d69:e6 10d6e:0 10eab:e6 10ead:0 10efa:dc 10efc:0 10efd:dc 10f00:0 10f46:dc",
    "10f48:e6 10f4b:dc 10f4c:e6 10f4d:dc 10f51:0 10f82:e6 10f83:dc 10f84:e6 10f85:dc 10f86:0 11046:9 11047:0",
    "11070:9 11071:0 1107f:9 11080:0 110b9:9 110ba:7 110bb:0 11100:e6 11103:0 11133:9 11136:0 11173:7",
    "11174:0 111c0:9 111c1:0 111ca:7 111cb:0 11235:9 11236:7 11237:0 112e9:7 112ea:9 112f0:0 1133b:7 1133d:0",
    "1134d:9 11350:0 11366:e6 11380:0 113ce:9 113d1:0 11442:9 11443:0 11446:7 11447:0 1145e:e6 1145f:0",
    "114c2:9 114c3:7 114c4:0 115bf:9 115c0:7 115c1:0 1163f:9 11640:0 116b6:9 116b7:7 116b8:0 1172b:9 11730:0",
    "11839:9 1183a:7 1183b:0 1193d:9 1193f:0 11943:7 11944:0 119e0:9 119e1:0 11a34:9 11a35:0 11a47:9 11a50:0",
    "11a99:9 11a9a:0 11c3f:9 11c40:0 11d42:7 11d43:0 11d44:9 11d46:0 11d97:9 11d98:0 11f41:9 11f43:0 1612f:9",
    "16130:0 16af0:1 16af5:0 16b30:e6 16b37:0 16ff0:6 16ff2:0 1bc9e:1 1bc9f:0 1d165:d8 1d167:1 1d16a:0",
    "1d16d:e2 1d16e:d8 1d17b:dc 1d183:0 1d185:e6 1d18a:dc 1d18c:0 1d1aa:e6 1d1ae:0 1d242:e6 1d245:0 1e000:e6",
    "1e100:0 1e130:e6 1e137:0 1e2ae:e6 1e2c0:0 1e2ec:e6 1e2f0:0 1e4ec:e8 1e4ee:dc 1e4ef:e6 1e4f0:0 1e5ee:e6",
    "1e5ef:dc 1e5f0:0 1e6e3:e6 1e6e4:0 1e6e6:e6 1e6e7:0 1e6ee:e6 1e6f0:0 1e6f5:e6 1e6fe:0 1e8d0:dc 1e922:0",
    "1e944:e6 1e94a:7 1e94b:0"]

def markKinds : Steps MarkKind := Steps.read MarkKind.read markRows

def markClasses : Steps Nat := Steps.read number classRows

def markKind (c : Char) : MarkKind := markKinds.get .none c.toNat

def markClass (c : Char) : Nat := markClasses.get 0 c.toNat

def isMark (c : Char) : Bool := markKind c != .none

/-- The class of a virama, a mark that takes the vowel off the consonant before it. -/
def viramaClass : Nat := 9

end Flotilla.DomainName
