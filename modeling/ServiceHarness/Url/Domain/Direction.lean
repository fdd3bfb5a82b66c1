import ServiceHarness.Text.CodePoints

/-!
# Directions of writing

The characters of a label of a domain name are written from left to right or from right to left,
or their direction depends on what is around them.  `isOrderly` holds of labels that can be read
in one way only: letters of both directions do not meet in them, and what depends on others
neither begins nor ends them.
-/

namespace ServiceHarness.Url.Domain

/-- The directions in which characters are written. -/
inductive Direction where
  /-- That of letters that are written from left to right. -/
  | leftToRight
  /-- That of letters that are written from right to left. -/
  | rightToLeft
  /-- That of Arabic digits. -/
  | arabicDigit
  /-- That of other digits. -/
  | digit
  /-- That of marks, which is the direction of what they belong to. -/
  | mark
  /-- That of signs. -/
  | sign
  deriving DecidableEq, Repr

/-- The letters that are written from right to left. -/
def rightToLeftLetters : Text.CodePoints :=
  .ofText
    "5be 5c0 5c3 5c6 5d0+1a 5ef+5 608 60b 60d 61b 61d+2d 66d+2 671+3 679+5c 6e5+1 6ee+1 6fa+13
    710 712+1d 74d+58 7b1 7c0+2a 7f4+1 7fa 7fe+17 81a 824 828 830+e 840+18 85e 860+a 870+1f
    8a0+29 fbb2+10 fe73 10800+5 10808 1080a+2b 10837+1 1083c 1083f+16 10857+47 108a7+8 108e0+12
    108f4+1 108fb+20 10920+19 1093f+1a 10980+37 109bc+13 109d2+2e 10a10+3 10a15+2 10a19+1c
    10a40+8 10a50+8 10a60+3f 10ac0+24 10aeb+b 10b00+35 10b40+15 10b58+1a 10b78+19 10b99+3
    10ba9+6 10c00+48 10cc0+32 10cfa+29 10d4a+5 10d6f+16 10d8e+1 10e80+29 10ead 10eb0+1 10ec2+5
    10ed0 10f00+27 10f30+15 10f51+8 10f70+11 10f86+3 10fb0+1b 10fe0+16 1e800+c4 1e8c7+8
    1e922+21 1e94b 1e950+9 1e95e+1 1ec71+43 1ed01+3c"

/-- The Arabic digits and the signs that are used with them. -/
def arabicDigits : Text.CodePoints :=
  .ofText "660+9 66b+1 10d30+9 10d40+9 10e60+1e"

/-- The digits that are written from left to right in any text. -/
def plainDigits : Text.CodePoints :=
  .ofText "30+9 6f0+9 102e1+1a"

/-- The marks that take no place of their own. -/
def marks : Text.CodePoints :=
  .ofText
    "300+3f 342 346+8 350+1f 483+6 591+2c 5bf 5c1+1 5c4+1 5c7 610+a 64b+14 670 6d6+6 6df+5 6e7+1
    6ea+3 711 730+1a 7a6+a 7eb+8 7fd 816+3 81b+8 825+2 829+4 859+2 897+8 8ca+17 8e3+1f 93a 93c
    941+7 94d 951+6 962+1 981 9bc 9c1+3 9cd 9e2+1 9fe a01+1 a3c a41+1 a47+1 a4b+2 a51 a70+1 a75
    a81+1 abc ac1+4 ac7+1 acd ae2+1 afa+5 b01 b3c b3f b41+3 b4d b55+1 b62+1 b82 bc0 bcd c00 c04
    c3c c3e+2 c46+2 c4a+3 c55+1 c62+1 c81 cbc ccc+1 ce2+1 d00+1 d3b+1 d41+3 d4d d62+1 d81 dca
    dd2+2 dd6 e31 e34+6 e47+7 eb1 eb4+8 ec8+6 f18+1 f35 f37 f39 f71+1 f74 f7a+4 f80 f82+2 f86+1
    f8d+5 f94+3 f99+3 f9e+3 fa3+3 fa8+3 fad+b fba+2 fc6 102d+3 1032+5 1039+1 103d+1 1058+1
    105e+2 1071+3 1082 1085+1 108d 109d 135d+2 1712+2 1732+1 1752+1 1772+1 17b7+6 17c6 17c9+a
    17dd 1885+1 18a9 1920+2 1927+1 1932 1939+2 1a17+1 1a1b 1a56 1a58+6 1a60 1a62 1a65+7 1a73+9
    1a7f 1ab0+2d 1ae0+b 1b00+3 1b34 1b36+4 1b3c 1b42 1b6b+8 1b80+1 1ba2+3 1ba8+1 1bab+2 1be6
    1be8+1 1bed 1bef+2 1c2c+7 1c36+1 1cd0+2 1cd4+c 1ce2+6 1ced 1cf4 1cf8+1 1dc0+3f 20d0+20
    2cef+2 2d7f 2de0+1f 302a+3 3099+1 a66f+3 a674+9 a69e+1 a6f0+1 a802 a806 a80b a825+1 a82c
    a8c4+1 a8e0+11 a8ff a926+7 a947+a a980+2 a9b3 a9b6+3 a9bc+1 a9e5 aa29+5 aa31+1 aa35+1 aa43
    aa4c aa7c aab0 aab2+2 aab7+1 aabe+1 aac1 aaec+1 aaf6 abe5 abe8 abed fb1e fe20+f 101fd 102e0
    10376+4 10a01+2 10a05+1 10a0c+3 10a38+2 10a3f 10ae5+1 10d24+3 10d69+4 10eab+1 10efa+5
    10f46+a 10f82+3 11001 11038+e 11070 11073+1 1107f+2 110b3+3 110b9+1 110c2 11100+2 11127+4
    1112d+7 11173 11180+1 111b6+8 111c9+3 111cf 1122f+2 11234 11236+1 1123e 11241 112df 112e3+7
    11300+1 1133b+1 11340 11366+6 11370+4 113bb+5 113ce 113d0 113d2 113e1+1 11438+7 11442+2
    11446 1145e 114b3+5 114ba 114bf+1 114c2+1 115b2+3 115bc+1 115bf+1 115dc+1 11633+7 1163d
    1163f+1 116ab 116ad 116b0+5 116b7 1171d+2 11722+3 11727+4 1182f+8 11839+1 1193b+1 1193e
    11943 119d4+3 119da+1 119e0 11a01+5 11a09+1 11a33+5 11a3b+3 11a47 11a51+5 11a59+2 11a8a+c
    11a98+1 11b60 11b62+2 11b66 11c30+6 11c38+5 11c92+15 11caa+6 11cb2+1 11cb5+1 11d31+5 11d3a
    11d3c+1 11d3f+6 11d47 11d90+1 11d95 11d97 11ef3+1 11f00+1 11f36+4 11f40 11f42 11f5a 13440
    13447+e 1611e+b 1612d+2 16af0+4 16b30+6 16f4f 16f8f+3 16fe4 1bc9d+1 1cf00+2d 1cf30+16
    1d167+2 1d17b+7 1d185+6 1d1aa+3 1d242+2 1da00+36 1da3b+31 1da75 1da84 1da9b+4 1daa1+e
    1e000+6 1e008+10 1e01b+6 1e023+1 1e026+4 1e08f 1e130+6 1e2ae 1e2ec+3 1e4ec+3 1e5ee+1 1e6e3
    1e6e6 1e6ee+1 1e6f5 1e8d0+6 1e944+6"

/-- The signs, which have no direction. -/
def signs : Text.CodePoints :=
  .ofText
    "0+8 e+d 21+e 3a+6 5b+5 7b+4 a1+6 a9 ab+1 ae b0+1 b6+1 bb bf d7 f7 2b9+1 2c2+d 2d2+5 2de+1
    2e5+8 2ef+10 375 3f6 58a 58d+2 606+1 609+1 60c 60e+1 66a 6de 6e9 7f6+3 9f2+1 9fb af1 bf3+7
    c78+6 e3f f3a+3 1390+9 1400 169b+1 17db 17f0+9 1800+a 1940 1944+1 19de+21 2010 2012+4
    2018+b 2027 2030+2 2035 2038+3 203d 203f+7 204a+c 2058+6 20a0+7 20a9+18 2104 2108 2114
    2117+1 211e+1 2123 2125 2127 2129 212e 213a 2141+3 214a+3 218a+1 2190+9b 222e 2231+f7
    232b+a 237b+19 2396+93 2440+a 24eb+1c0 26ad+152 2900+10b 2a0d+66 2a77+64 2add+96 2b76+89
    2ce5+5 2cf9+6 2e00+5d 2e80+19 2e9b+3 2ea0+52 3001 3003+1 3008+18 3030 3037 303d+2 30a0 30fb
    31c0+25 4dc0+3f a490+36 a60d+2 a673 a67e+1 a700+21 a788 a828+3 a838+1 a874+3 ab6a+1 fbc3+f
    fd3e+11 fd90+1 fdc8+7 fdfd+2 fe45+1 10101 10140+4c 10190+c 101a0 1091f 10b39+6 10d6e
    10ed1+7 11052+13 11660+c 11fd5+1c 16fe2 1cc00+d5 1ccfa+2 1cd00+1b3 1ceba+16 1cee0+10
    1d1e9+1 1d200+41 1d245 1d300+56 1e2ff 1eef0+1 1f000+2b 1f030+63 1f0a0+e 1f0b1+e 1f0c1+e
    1f0d1+24 1f10b+4 1f12f 1f16d+2 1f1ad 1f260+5 1f300+3d8 1f6dc+10 1f6f0+c 1f700+d9 1f7e0+b
    1f7f0 1f800+b 1f810+37 1f850+9 1f860+27 1f890+1d 1f8b0+b 1f8c0+1 1f8d0+8 1f900+157 1fa60+d
    1fa70+c 1fa80+a 1fa8e+38 1fac8 1facd+f 1fadf+b 1faef+9 1fb00+92 1fb94+5b 1fbfa"

/-- The direction of a usual character. -/
def direction (c : Char) : Direction :=
  if rightToLeftLetters.contains c then .rightToLeft
  else if arabicDigits.contains c then .arabicDigit
  else if plainDigits.contains c then .digit
  else if marks.contains c then .mark
  else if signs.contains c ∨ c.toNat = 0x200c ∨ c.toNat = 0x200d then .sign
  else .leftToRight

/-- Whether a character makes directions matter in a domain name. -/
def isTurning (c : Char) : Bool :=
  direction c = .rightToLeft || direction c = .arabicDigit

/-- Whether the characters of a label can be read in one way only. -/
def isOrderly (label : List Char) : Bool :=
  let directions := label.map direction
  let ending := (directions.reverse.dropWhile (· = .mark)).head?
  match directions.head? with
  | none => true
  | some .leftToRight =>
    directions.all (fun d => d ≠ .rightToLeft ∧ d ≠ .arabicDigit)
      && (ending = some .leftToRight || ending = some .digit)
  | some .rightToLeft =>
    directions.all (· ≠ .leftToRight)
      && (ending = some .rightToLeft || ending = some .digit || ending = some .arabicDigit)
      && !(directions.contains .digit && directions.contains .arabicDigit)
  | some _ => false

end ServiceHarness.Url.Domain
