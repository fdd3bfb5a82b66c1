import ServiceHarness.Url.Domain.Composition
import ServiceHarness.Url.Domain.Direction

/-!
# Joiners

Two characters do not show themselves, but tell whether the letters around them are written
joined or apart.  `joinersMatter` holds of labels in which each of them stands where it makes a
difference: behind a mark that takes the vowel from a letter, or, for the one that keeps letters
apart, between letters that would be joined.
-/

namespace ServiceHarness.Url.Domain

/-- The letters that are joined to the one after them. -/
def joinedForward : Text.CodePoints :=
  .ofText
    "620 626 628 62a+4 633+c 641+6 649+1 66e+1 679+e 69a+25 6c1+1 6cc 6ce 6d0+1 6fa+2 6ff 712+2
    71a+3 71f+8 729 72b 72d+1 74e+a 75c+e 76d+3 772 775+2 77a+5 7ca+20 841+4 848 84a+9 855 860
    862+3 868 886 889+4 88f 8a0+9 8af+1 8b3+5 8ba+e 1807 1820+58 1887+21 18aa a840+32 10ac0+4
    10acd 10ad3+9 10ade+2 10aeb+3 10b80 10b82 10b86+2 10b8a+1 10b8d 10b90 10bad+1 10d00+21
    10d23 10ec3+1 10ec6+1 10f30+2 10f34+10 10f51+2 10f70+3 10f76+b 10fb0 10fb2+1 10fb8 10fbb+1
    10fbe+1 10fc1 10fc4 10fca+1 1e922+21"

/-- The letters that are joined only to the one before them. -/
def joinedBackwardOnly : Text.CodePoints :=
  .ofText
    "622+3 627 629 62f+3 648 671+2 688+11 6c0 6c3+8 6cd 6cf 6d2+1 6d5 6ee+1 710 715+4 71e 728
    72a 72c 72f 74d 759+2 76b+1 771 773+1 778+1 840 846+1 849 854 856+2 867 869+1 870+12 88e
    8aa+2 8ae 8b1+1 8b9 10ac5 10ac7 10ac9+1 10ace+4 10add 10ae1 10ae4 10aef 10b81 10b83+2 10b89
    10b8c 10b8e+1 10b91 10ba9+3 10d22 10ec2 10f33 10f54 10f74+1 10fb4+2 10fb9+1 10fbd 10fc2+1
    10fc9"

/-- The letters that are joined only to the one after them. -/
def joinedForwardOnly : Text.CodePoints :=
  .ofText "a872 10acd 10ad7 10d00 10fcb"

/-- Spacing marks between which letters are joined nevertheless. -/
def passedOver : Text.CodePoints :=
  .ofText "cbf cc6 11a07+1 11c3f 1e94b"

/-- The characters between which letters are joined. -/
def isPassed (c : Char) : Bool :=
  (marks.contains c && c.toNat ≠ 0x1171e) || passedOver.contains c

/-- The letters that are joined to the one before them. -/
def isJoinedBackward (c : Char) : Bool :=
  joinedBackwardOnly.contains c || (joinedForward.contains c && !joinedForwardOnly.contains c)

/-- The spacing marks. -/
def spacingMarks : Text.CodePoints :=
  .ofText
    "903 93b 93e+2 949+3 94e+1 982+1 9be+2 9c7+1 9cb+1 9d7 a03 a3e+2 a83 abe+2 ac9 acb+1 b02+1
    b3e b40 b47+1 b4b+1 b57 bbe+1 bc1+1 bc6+2 bca+2 bd7 c01+2 c41+3 c82+1 cbe+6 cc6+2 cca+1
    cd5+1 cf3 d02+1 d3e+2 d46+2 d4a+2 d57 d82+1 dcf+2 dd8+7 df2+1 f3e+1 f7f 102b+1 1031 1038
    103b+1 1056+1 1062+2 1067+6 1083+1 1087+5 108f 109a+2 1715 1734 17b6 17be+7 17c7+1 1923+3
    1929+2 1930+1 1933+5 1a19+1 1a55 1a57 1a61 1a63+1 1a6d+5 1b04 1b35 1b3b 1b3d+4 1b43+1 1b82
    1ba1 1ba6+1 1baa 1be7 1bea+2 1bee 1bf2+1 1c24+7 1c34+1 1ce1 1cf7 302e+1 a823+1 a827 a880+1
    a8b4+f a952+1 a983 a9b4+1 a9ba+1 a9be+2 aa2f+1 aa33+1 aa4d aa7b aa7d aaeb aaee+1 aaf5
    abe3+1 abe6+1 abe9+1 abec 11000 11002 11082 110b0+2 110b7+1 1112c 11145+1 11182 111b3+2
    111bf+1 111ce 1122c+2 11232+1 11235 112e0+2 11302+1 1133e+1 11341+3 11347+1 1134b+2 11357
    11362+1 113b8+2 113c2 113c5 113c7+3 113cc+1 113cf 11435+2 11440+1 11445 114b0+2 114b9
    114bb+3 114c1 115af+2 115b8+3 115be 11630+2 1163b+1 1163e 116ac 116ae+1 116b6 11720+1 11726
    1182c+2 11838 11930+5 11937+1 1193d 11940 11942 119d1+2 119dc+3 119e4 11a07+1 11a39 11a57+1
    11a97 11b61 11b65 11b67 11c2f 11c3e+1 11ca9 11cb1 11cb4 11d8a+4 11d93+1 11d96 11ef5+1 11f03
    11f34+1 11f3e+1 11f41 1612a+2 16f51+36 16ff0+1 1d165+1 1d16d+5"

/-- Whether a character belongs to the one before it. -/
def isMark (c : Char) : Bool :=
  marks.contains c || spacingMarks.contains c

/-- The class of the marks that take the vowel from a letter. -/
def vowelKiller : Nat := 9

/-- Whether the joiners make a difference in a text after the characters `before`, told
backwards. -/
def joinersMatterAfter (before : List Char) : List Char → Bool
  | [] => true
  | c :: rest =>
    let stands :=
      (before.head?.map markClass) = some vowelKiller
        || (c.toNat = 0x200c
          && ((before.dropWhile isPassed).head?.any joinedForward.contains)
          && ((rest.dropWhile isPassed).head?.any isJoinedBackward))
    ((c.toNat ≠ 0x200c && c.toNat ≠ 0x200d) || stands) && joinersMatterAfter (c :: before) rest

/-- Whether the joiners make a difference in a label. -/
def joinersMatter (label : List Char) : Bool :=
  joinersMatterAfter [] label

end ServiceHarness.Url.Domain
