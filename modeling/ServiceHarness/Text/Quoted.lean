import ServiceHarness.Text.CodePoints

/-!
# Quoted text

`quote s` is the text `s` between double quotes, in a form that shows each of its
characters: quotes and backslashes are escaped, and so is every character that does not
show on its own, by its code point if it has no short escape.  The table `unseen` holds
such characters beyond ASCII.
-/

namespace ServiceHarness.Text

/-- The characters beyond ASCII that do not show on their own: controls, formats, separators,
those for private use and for no use at all, those that may be left out, and those that extend
the character before them without taking a place of their own. -/
def unseen : CodePoints :=
  .ofText
    "80+20 ad 300+6f 378+1 380+3 38b 38d 3a2 483+6 530 557+1 58b+1 590+2d 5bf 5c1+1 5c4+1 5c7+8
    5eb+3 5f5+10 610+a 61c 64b+14 670 6d6+7 6df+5 6e7+1 6ea+3 70e+1 711 730+1c 7a6+a 7b2+d
    7eb+8 7fb+2 816+3 81b+8 825+2 829+6 83f 859+4 85f 86b+4 890+f 8ca+38 93a 93c 941+7 94d
    951+6 962+1 981 984 98d+1 991+1 9a9 9b1 9b3+2 9ba+2 9be 9c1+5 9c9+1 9cd 9cf+c 9de 9e2+3
    9fe+4 a04 a0b+3 a11+1 a29 a31 a34 a37 a3a+3 a41+17 a5d a5f+6 a70+1 a75 a77+b a84 a8e a92
    aa9 ab1 ab4 aba+2 ac1+7 aca acd+2 ad1+e ae2+3 af2+6 afa+7 b04 b0d+1 b11+1 b29 b31 b34 b3a+2
    b3e+1 b41+5 b49+1 b4d+e b5e b62+3 b78+a b84 b8b+2 b91 b96+2 b9b b9d ba0+2 ba5+2 bab+2 bba+4
    bc0 bc3+2 bc9 bcd+2 bd1+14 bfb+5 c04 c0d c11 c29 c3a+2 c3e+2 c45+12 c5b c5e+1 c62+3 c70+6
    c81 c8d c91 ca9 cb4 cba+2 cbf+1 cc2 cc5+16 cdf ce2+3 cf0 cf4+d d0d d11 d3b+1 d3e d41+4 d49
    d4d d50+3 d57 d62+3 d80+1 d84 d97+2 db2 dbc dbe+1 dc7+8 dd2+5 ddf+6 df0+1 df5+b e31 e34+a
    e47+7 e5c+24 e83 e85 e8b ea4 ea6 eb1 eb4+8 ebe+1 ec5 ec7+8 eda+1 ee0+1f f18+1 f35 f37 f39
    f48 f6d+11 f80+4 f86+1 f8d+30 fc6 fcd fdb+24 102d+3 1032+5 1039+1 103d+1 1058+1 105e+2
    1071+3 1082 1085+1 108d 109d 10c6 10c8+4 10ce+1 115f+1 1249 124e+1 1257 1259 125e+1 1289
    128e+1 12b1 12b6+1 12bf 12c1 12c6+1 12d7 1311 1316+1 135b+4 137d+2 139a+5 13f6+1 13fe+1
    1680 169d+2 16f9+6 1712+c 1732+2 1737+8 1752+d 176d 1771+e 17b4+1 17b7+6 17c6 17c9+a 17dd+2
    17ea+5 17fa+5 180b+4 181a+5 1879+6 1885+1 18a9 18ab+4 18f6+9 191f+3 1927+1 192c+3 1932
    1939+6 1941+2 196e+1 1975+a 19ac+3 19ca+5 19db+2 1a17+1 1a1b+2 1a56 1a58+8 1a62 1a65+7
    1a73+c 1a8a+5 1a9a+5 1aae+55 1b34+9 1b42+2 1b4d 1b6b+8 1b80+1 1ba2+3 1ba8+5 1be6 1be8+1
    1bed 1bef+c 1c2c+7 1c36+4 1c4a+2 1c8b+4 1cbb+1 1cc8+a 1cd4+c 1ce2+6 1ced 1cf4 1cf8+1 1cfb+4
    1dc0+3f 1f16+1 1f1e+1 1f46+1 1f4e+1 1f58 1f5a 1f5c 1f5e 1f7e+1 1fb5 1fc5 1fd4+1 1fdc 1ff0+1
    1ff5 1fff+10 2028+7 205f+10 2072+1 208f 209d+2 20c2+3d 218c+3 242a+15 244b+14 2b74+1 2cef+2
    2cf4+4 2d26 2d28+4 2d2e+1 2d68+6 2d71+e 2d97+8 2da7 2daf 2db7 2dbf 2dc7 2dcf 2dd7 2ddf+20
    2e5e+21 2e9a 2ef4+b 2fd6+19 3000 302a+5 3040 3097+3 3100+4 3130 3164 318f 31e6+8 321f
    a48d+2 a4c7+8 a62c+13 a66f+3 a674+9 a69e+1 a6f0+1 a6f8+7 a7dd+13 a802 a806 a80b a825+1
    a82c+3 a83a+5 a878+7 a8c4+9 a8da+17 a8ff a926+7 a947+a a953+b a97d+5 a9b3 a9b6+3 a9bc+1
    a9c0 a9ce a9da+3 a9e5 a9ff aa29+5 aa31+1 aa35+a aa43 aa4c aa4e+1 aa5a+1 aa7c aab0 aab2+2
    aab7+1 aabe+1 aac1 aac3+17 aaec+1 aaf6+a ab07+1 ab0f+1 ab17+8 ab27 ab2f ab6c+3 abe5 abe8
    abed+2 abfa+5 d7a4+b d7c7+3 d7fc+2103 fa6e+1 fada+25 fb07+b fb18+4 fb1e fb37 fb3d fb3f fb42
    fb45 fdd0+1f fe00+f fe1a+15 fe53 fe67 fe6c+3 fe75 fefd+3 ffa0 ffbf+2 ffc8+1 ffd0+1 ffd8+1
    ffdd+2 ffe7 ffef+c fffe+1 1000c 10027 1003b 1003e 1004e+1 1005e+21 100fb+4 10103+3 10134+2
    1018f 1019d+2 101a1+2e 101fd+82 1029d+2 102d1+f 102fc+3 10324+8 1034b+4 10376+9 1039e
    103c4+3 103d6+29 1049e+1 104aa+5 104d4+3 104fc+3 10528+7 10564+a 1057b 1058b 10593 10596
    105a2 105b2 105ba 105bd+2 105f4+b 10737+8 10756+9 10768+17 10786 107b1 107bb+44 10806+1
    10809 10836 10839+2 1083d+1 10856 1089f+7 108b0+2f 108f3 108f6+4 1091c+2 1093a+4 1095a+25
    109b8+3 109d0+1 10a01+e 10a14 10a18 10a36+9 10a49+6 10a59+6 10aa0+1f 10ae5+5 10af7+8
    10b36+2 10b56+1 10b73+4 10b92+6 10b9d+b 10bb0+4f 10c49+36 10cb3+c 10cf3+6 10d24+b 10d3a+5
    10d66+7 10d86+7 10d90+cf 10e7f 10eaa+2 10eae+1 10eb2+f 10ec8+7 10ed9+26 10f28+7 10f46+a
    10f5a+15 10f82+3 10f8a+25 10fcc+13 10ff7+8 11001 11038+e 1104e+3 11070 11073+1 11076+b
    110b3+3 110b9+1 110bd 110c2+d 110e9+6 110fa+8 11127+4 1112d+8 11148+7 11173 11177+a 111b6+8
    111c0 111c9+3 111cf 111e0 111f5+a 11212 1122f+2 11234+3 1123e 11241+3e 11287 11289 1128e
    1129e 112aa+5 112df 112e3+c 112fa+7 11304 1130d+1 11311+1 11329 11331 11334 1133a+2 1133e
    11340 11345+1 11349+1 1134d+2 11351+b 11364+1b 1138a 1138c+1 1138f 113b6 113b8 113bb+e
    113cb 113ce+2 113d2 113d6 113d9+26 11438+7 11442+2 11446 1145c 1145e 11462+1d 114b0 114b3+5
    114ba 114bd 114bf+1 114c2+1 114c8+7 114da+a5 115af 115b2+5 115bc+1 115bf+1 115dc+23 11633+7
    1163d 1163f+1 11645+a 1165a+5 1166d+12 116ab 116ad 116b0+7 116ba+5 116ca+5 116e4+1b 1171b+2
    1171f 11722+3 11727+8 11747+b8 1182f+8 11839+1 1183c+63 118f3+b 11907+1 1190a+1 11914 11917
    11930 11936 11939+5 11943 11947+8 1195a+45 119a8+1 119d4+7 119e0 119e5+1a 11a01+9 11a33+5
    11a3b+3 11a47+8 11a51+5 11a59+2 11a8a+c 11a98+1 11aa3+c 11af9+6 11b0a+56 11b62+2 11b66
    11b68+57 11be2+d 11bfa+5 11c09 11c30+d 11c3f 11c46+9 11c6d+2 11c90+18 11caa+6 11cb2+1
    11cb5+4a 11d07 11d0a 11d31+14 11d47+8 11d5a+5 11d66 11d69 11d8f+3 11d95 11d97 11d99+6
    11daa+5 11ddc+3 11dea+f5 11ef3+1 11ef9+8 11f11 11f36+7 11f40+2 11f5a+55 11fb1+e 11ff2+c
    1239a+65 1246f 12475+a 12544+a4b 12ff3+c 13430+10 13447+18 143fb+4 14647+1ab8 1611e+b
    1612d+2 1613a+6c5 16a39+6 16a5f 16a6a+3 16abf 16aca+5 16aee+6 16af6+9 16b30+6 16b46+9 16b5a
    16b62 16b78+4 16b90+1af 16d7a+c5 16e9b+4 16eb9+1 16ed4+2b 16f4b+4 16f88+a 16fa0+3f 16fe4+d
    16ff7+8 18cd6+28 18d1f+60 18df3+21fc 1aff4 1affc 1afff 1b123+e 1b133+1c 1b153+1 1b156+d
    1b168+7 1b2fc+903 1bc6b+4 1bc7d+2 1bc89+6 1bc9a+1 1bc9d+1 1bca0+f5f 1ccfd+2 1ceb4+5 1ced1+e
    1cef1+5e 1cfc4+3b 1d0f6+9 1d127+1 1d165+4 1d16d+15 1d185+6 1d1aa+3 1d1eb+14 1d242+2
    1d246+79 1d2d4+b 1d2f4+b 1d357+8 1d379+86 1d455 1d49d 1d4a0+1 1d4a3+1 1d4a7+1 1d4ad 1d4ba
    1d4bc 1d4c4 1d506 1d50b+1 1d515 1d51d 1d53a 1d53f 1d545 1d547+2 1d551 1d6a6+1 1d7cc+1
    1da00+36 1da3b+31 1da75 1da84 1da8c+473 1df1f+5 1df2b+104 1e06e+91 1e12d+9 1e13e+1 1e14a+3
    1e150+13f 1e2ae+11 1e2ec+3 1e2fa+4 1e300+1cf 1e4ec+3 1e4fa+d5 1e5ee+1 1e5fb+3 1e600+bf
    1e6df 1e6e3 1e6e6 1e6ee+1 1e6f5+8 1e700+df 1e7e7 1e7ec 1e7ef 1e7ff 1e8c5+1 1e8d0+2f 1e944+6
    1e94c+3 1e95a+3 1e960+310 1ecb5+4b 1ed3e+c1 1ee04 1ee20 1ee23 1ee25+1 1ee28 1ee33 1ee38
    1ee3a 1ee3c+5 1ee43+3 1ee48 1ee4a 1ee4c 1ee50 1ee53 1ee55+1 1ee58 1ee5a 1ee5c 1ee5e 1ee60
    1ee63 1ee65+1 1ee6b 1ee73 1ee78 1ee7d 1ee7f 1ee8a 1ee9c+4 1eea4 1eeaa 1eebc+33 1eef2+10d
    1f02c+3 1f094+b 1f0af+1 1f0c0 1f0d0 1f0f6+9 1f1ae+37 1f203+c 1f23c+3 1f249+6 1f252+d
    1f266+99 1f6d9+2 1f6ed+2 1f6fd+2 1f7da+5 1f7ec+3 1f7f1+e 1f80c+3 1f848+7 1f85a+5 1f888+7
    1f8ae+1 1f8bc+3 1f8c2+d 1f8d9+26 1fa58+7 1fa6e+1 1fa7d+2 1fa8b+2 1fac7 1fac9+3 1fadd+1
    1faeb+3 1faf9+6 1fb93 1fbfb+404 2a6e0+1f 2b81e+1 2ceae+1 2ebe1+e 2ee5e+9a1 2fa1e+5e1
    3134b+4 3347a+dcb85"

/-- Whether a character does not show on its own. -/
def isUnseen (c : Char) : Bool :=
  if c.toNat < 0x80 then c < ' ' || c.toNat == 0x7f else unseen.contains c

/-- The hexadecimal digits of a number, in lower case and without leading zeros. -/
def hex (n : Nat) : String :=
  String.ofList (Nat.toDigits 16 n)

/-- A character as it stands within quotes. -/
def quoteChar (c : Char) : String :=
  if c = '"' then "\\\""
  else if c = '\\' then "\\\\"
  else if c = '\t' then "\\t"
  else if c = '\r' then "\\r"
  else if c = '\n' then "\\n"
  else if c.toNat = 0 then "\\0"
  else if isUnseen c then "\\u\x7b" ++ hex c.toNat ++ "\x7d"
  else c.toString

/-- The text between double quotes. -/
def quote (s : String) : String :=
  "\"" ++ String.join (s.toList.map quoteChar) ++ "\""

end ServiceHarness.Text
