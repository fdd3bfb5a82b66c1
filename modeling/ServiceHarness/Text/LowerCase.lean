import ServiceHarness.Text.Spelling

/-!
# Lower case

`lowerCase` spells a character in lower case, by the table `lowerCases` of the capital letters.
-/

namespace ServiceHarness.Text

/-- The capital letters and their small ones. -/
def lowerCases : Spellings :=
  .ofText
    "41+19>20 c0+16>20 d8+6>20 100+2e/ 130=69.307 132+4/ 139+e/ 14a+2c/ 178=ff 179+4/ 181=253
    182+2/ 186=254,188 189=256,257,18c 18e=1dd,259,25b,192 193=260,263 196=269,268,199
    19c=26f,272 19f=275 1a0+4/ 1a6=280,1a8 1a9=283 1ac=1ad 1ae=288,1b0 1b1=28a,28b 1b3+2/
    1b7=292,1b9 1bc=1bd 1c4=1c6,1c6 1c7=1c9,1c9 1ca=1cc 1cb+10/ 1de+10/ 1f1=1f3 1f2+2/
    1f6=195,1bf 1f8+26/ 220=19e 222+10/ 23a=2c65,23c 23d=19a,2c66 241=242 243=180,289,28c
    246+8/ 370+2/ 376=377 37f=3f3 386=3ac 388+2>25 38c=3cc 38e=3cd,3ce 391+10>20 3a3+8>20
    3cf=3d7 3d8+16/ 3f4=3b8 3f7=3f8 3f9=3f2,3fb 3fd+2<82 400+f>50 410+1f>20 460+20/ 48a+34/
    4c0=4cf 4c1+c/ 4d0+5e/ 531+25>30 10a0+25>1c60 10c7=2d27 10cd=2d2d 13a0+4f>97d0 13f0+5>8
    1c89=1c8a 1c90+2a<bc0 1cbd+2<bc0 1e00+94/ 1e9e=df 1ea0+5e/ 1f08+7<8 1f18+5<8 1f28+7<8
    1f38+7<8 1f48+5<8 1f59=1f51 1f5b=1f53 1f5d=1f55 1f5f=1f57 1f68+7<8 1f88+7<8 1f98+7<8
    1fa8+7<8 1fb8=1fb0,1fb1,1f70,1f71,1fb3 1fc8+3<56 1fcc=1fc3 1fd8=1fd0,1fd1,1f76,1f77
    1fe8=1fe0,1fe1,1f7a,1f7b,1fe5 1ff8=1f78,1f79,1f7c,1f7d,1ff3 2126=3c9 212a=6b,e5 2132=214e
    2160+f>10 2183=2184 24b6+19>1a 2c00+2f>30 2c60=2c61 2c62=26b,1d7d,27d 2c67+4/
    2c6d=251,271,250,252 2c72=2c73 2c75=2c76 2c7e=23f,240 2c80+62/ 2ceb+2/ 2cf2=2cf3 a640+2c/
    a680+1a/ a722+c/ a732+3c/ a779+2/ a77d=1d79 a77e+8/ a78b=a78c a78d=265 a790+2/ a796+12/
    a7aa=266,25c,261,26c,26a a7b0=29e,287,29d,ab53 a7b4+e/ a7c4=a794,282,1d8e a7c7+2/ a7cb=264
    a7cc+e/ a7dc=19b a7f5=a7f6 ff21+19>20 10400+27>28 104b0+23>28 10570+a>27 1057c+e>27
    1058c+6>27 10594=105bb,105bc 10c80+32>40 10d50+15>20 118a0+1f>20 16e40+1f>20 16ea0+18>1b
    1e900+21>22"

/-- A character in lower case. -/
def lowerCase (c : Char) : List Char :=
  (lowerCases.spell? c).getD [c]

end ServiceHarness.Text
