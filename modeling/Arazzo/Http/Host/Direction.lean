import Arazzo.Text.CodeSet

/-!
# Directions of writing

A label with letters that are written from right to left must show in one order only: it starts with a
letter, which gives its direction, ends in a letter or a digit, marks apart, and in between holds
nothing of the other direction.
-/

namespace Arazzo
namespace Host

open Text

inductive Direction where
  | left
  | right
  | arabic
  | arabicNumber
  | number
  | mark
  | neutral
  | unknown
deriving DecidableEq, Repr

/-- Hebrew letters and the like. -/
def rightCodes : CodeSet := .ofText
    "5d0-5ea 5ef-5f4 7c0-7ea 7f4-7f5 800-815 81a 824 828 840-858 10800-10805 10808 1080a-10835
     10837-10838 1083c 1083f-10855 10860-10876 10880-1089e 108e0-108f2 108f4-108f5 10900-10915
     10920-10939 10980-109b7 109be-109bf 10a00 10a10-10a13 10a15-10a17 10a19-10a35 10a60-10a7c
     10a80-10a9c 10ac0-10ac7 10ac9-10ae4 10b00-10b35 10b40-10b55 10b60-10b72 10b80-10b91
     10c00-10c48 10cc0-10cf2 10e80-10ea9 10eb0-10eb1 10f00-10f1c 10f27 10f70-10f81 10fb0-10fc4
     10fe0-10ff6 1e800-1e8c4 1e922-1e943 1e94b 1e950-1e959"

/-- Arabic letters. -/
def arabicCodes : CodeSet := .ofText
    "620-63f 641-64a 66e-66f 671-674 679-6d3 6d5 6e5-6e6 6ee-6ef 6fa-6ff 710 712-72f 74d-7a5 7b1
     860-86a 870-887 889-88e 8a0-8c9 fe73 10d00-10d23 10f30-10f45"

/-- Arabic digits. -/
def arabicNumberCodes : CodeSet := .ofText
    "660-669 10d30-10d39"

/-- European digits. -/
def numberCodes : CodeSet := .ofText
    "30-39 6f0-6f9"

/-- Marks without a direction of their own. -/
def markDirectionCodes : CodeSet := .ofText
    "300-33f 342 346-34e 350-36f 483-487 591-5bd 5bf 5c1-5c2 5c4-5c5 5c7 610-61a 64b-65f 670
     6d6-6dc 6df-6e4 6e7-6e8 6ea-6ed 711 730-74a 7a6-7b0 7eb-7f3 7fd 816-819 81b-823 825-827
     829-82d 859-85b 898-89f 8ca-8e1 8e3-902 93a 93c 941-948 94d 951-957 962-963 981 9bc 9c1-9c4
     9cd 9e2-9e3 9fe a01-a02 a3c a41-a42 a47-a48 a4b-a4d a51 a70-a71 a75 a81-a82 abc ac1-ac5
     ac7-ac8 acd ae2-ae3 afa-aff b01 b3c b3f b41-b44 b4d b55-b56 b62-b63 b82 bc0 bcd c00 c04 c3c
     c3e-c40 c46-c48 c4a-c4d c55-c56 c62-c63 c81 cbc ccc-ccd ce2-ce3 d00-d01 d3b-d3c d41-d44 d4d
     d62-d63 d81 dca dd2-dd4 dd6 e31 e34-e3a e47-e4e eb1 eb4-ebc ec8-ecd f18-f19 f35 f37 f39
     f71-f72 f74 f7a-f7e f80 f82-f84 f86-f87 f8d-f92 f94-f97 f99-f9c f9e-fa1 fa3-fa6 fa8-fab
     fad-fb8 fba-fbc fc6 102d-1030 1032-1037 1039-103a 103d-103e 1058-1059 105e-1060 1071-1074
     1082 1085-1086 108d 109d 135d-135f 1712-1714 1732-1733 1752-1753 1772-1773 17b7-17bd 17c6
     17c9-17d3 17dd 1885-1886 18a9 1920-1922 1927-1928 1932 1939-193b 1a17-1a18 1a1b 1a56
     1a58-1a5e 1a60 1a62 1a65-1a6c 1a73-1a7c 1a7f 1ab0-1abd 1abf-1ace 1b00-1b03 1b34 1b36-1b3a
     1b3c 1b42 1b6b-1b73 1b80-1b81 1ba2-1ba5 1ba8-1ba9 1bab-1bad 1be6 1be8-1be9 1bed 1bef-1bf1
     1c2c-1c33 1c36-1c37 1cd0-1cd2 1cd4-1ce0 1ce2-1ce8 1ced 1cf4 1cf8-1cf9 1dc0-1dff 2cef-2cf1
     2d7f 2de0-2dff 302a-302d 3099-309a a66f a674-a67d a69e-a69f a6f0-a6f1 a802 a806 a80b
     a825-a826 a82c a8c4-a8c5 a8e0-a8f1 a8ff a926-a92d a947-a951 a980-a982 a9b3 a9b6-a9b9
     a9bc-a9bd a9e5 aa29-aa2e aa31-aa32 aa35-aa36 aa43 aa4c aa7c aab0 aab2-aab4 aab7-aab8
     aabe-aabf aac1 aaec-aaed aaf6 abe5 abe8 abed fb1e fe20-fe2f 101fd 102e0 10376-1037a
     10a01-10a03 10a05-10a06 10a0c-10a0f 10a38-10a3a 10a3f 10ae5-10ae6 10d24-10d27 10eab-10eac
     10f46-10f50 10f82-10f85 11001 11038-11046 11070 11073-11074 1107f-11081 110b3-110b6
     110b9-110ba 110c2 11100-11102 11127-1112b 1112d-11134 11173 11180-11181 111b6-111be
     111c9-111cc 111cf 1122f-11231 11234 11236-11237 1123e 112df 112e3-112ea 11300-11301
     1133b-1133c 11340 11366-1136c 11370-11374 11438-1143f 11442-11444 11446 1145e 114b3-114b8
     114ba 114bf-114c0 114c2-114c3 115b2-115b5 115bc-115bd 115bf-115c0 115dc-115dd 11633-1163a
     1163d 1163f-11640 116ab 116ad 116b0-116b5 116b7 1171d-1171f 11722-11725 11727-1172b
     1182f-11837 11839-1183a 1193b-1193c 1193e 11943 119d4-119d7 119da-119db 119e0 11a01-11a06
     11a09-11a0a 11a33-11a38 11a3b-11a3e 11a47 11a51-11a56 11a59-11a5b 11a8a-11a96 11a98-11a99
     11c30-11c36 11c38-11c3d 11c92-11ca7 11caa-11cb0 11cb2-11cb3 11cb5-11cb6 11d31-11d36 11d3a
     11d3c-11d3d 11d3f-11d45 11d47 11d90-11d91 11d95 11d97 11ef3-11ef4 16af0-16af4 16b30-16b36
     16f4f 16f8f-16f92 16fe4 1bc9d-1bc9e 1cf00-1cf2d 1cf30-1cf46 1da00-1da36 1da3b-1da6c 1da75
     1da84 1da9b-1da9f 1daa1-1daaf 1e000-1e006 1e008-1e018 1e01b-1e021 1e023-1e024 1e026-1e02a
     1e130-1e136 1e2ae 1e2ec-1e2ef 1e8d0-1e8d6 1e944-1e94a"

/-- Signs of either direction. -/
def neutralCodes : CodeSet := .ofText
    "2d b7 2b9-2ba 2c6-2cf 2ec 375 200c-200d 2e2f 30fb a67f a717-a71f a788"

/-- Code points of labels that Unicode 14 gives no direction. -/
def undirectedCodes : CodeSet := .ofText
    "88f 897 c5c cdc cf3 ece 1acf-1add 1ae0-1aeb 1c8a a7cd a7cf a7db 105c0-105f3 10940-10959
     10d40-10d4f 10d69-10d6d 10d6f-10d85 10ec2-10ec7 10efa-10eff 1123f-11241 11380-11389 1138b
     1138e 11390-113b5 113b7-113c0 113c2 113c5 113c7-113ca 113cc-113d3 113e1-113e2 116d0-116e3
     11b60-11b67 11bc0-11be0 11bf0-11bf9 11db0-11ddb 11de0-11de9 11f00-11f10 11f12-11f3a
     11f3e-11f42 11f50-11f5a 1342f 13440-13455 13460-143fa 16100-16139 16d40-16d6c 16d70-16d79
     16ebb-16ed3 16ff2-16ff3 187f8-187ff 18cff 18d09-18d1e 18d80-18df2 1b132 1b155 1df25-1df2a
     1e08f 1e4d0-1e4f9 1e5d0-1e5fa 1e6c0-1e6de 1e6e0-1e6f5 1e6fe-1e6ff 2b739-2b73f 2cea2-2cead
     2ebf0-2ee5d 31350-33479"

/-- The direction of a code point that may stand in a label. -/
def directionOf (code : Nat) : Direction :=
  if rightCodes.contains code then .right
  else if arabicCodes.contains code then .arabic
  else if arabicNumberCodes.contains code then .arabicNumber
  else if numberCodes.contains code then .number
  else if markDirectionCodes.contains code then .mark
  else if neutralCodes.contains code then .neutral
  else if undirectedCodes.contains code then .unknown
  else .left

/-- The directions of letters and digits that are written from right to left. -/
def rightward : List Direction := [.right, .arabic, .arabicNumber]

/-- Whether the directions of a label keep its order clear. -/
def directionsFit (label : List Nat) : Bool :=
  let directions := label.map directionOf
  let last := (directions.reverse.find? (· != .mark)).getD .mark
  if directions.contains .unknown then false
  else if !directions.any rightward.contains then true
  else match directions.head? with
    | some .left =>
      !directions.any rightward.contains && [Direction.left, .number].contains last
    | some .right | some .arabic =>
      !directions.contains .left && [Direction.right, .arabic, .number, .arabicNumber].contains last &&
        !(directions.contains .number && directions.contains .arabicNumber)
    | _ => false

end Host
end Arazzo
