import ServiceHarness.Url.Domain.Joining
import ServiceHarness.Url.Domain.Usual
import ServiceHarness.Url.Punycode

/-!
# Domain names

`domain?` turns a name in any letters into the ASCII name under which it is looked up: usual
characters stand for the others, and each label with characters beyond ASCII is told by its
code.  It is `none` for a name that no domain can have.
-/

namespace ServiceHarness.Url

/-- The parts of a text between the given characters. -/
def splitAt (separator : Char) : List Char → List (List Char)
  | [] => [[]]
  | c :: rest =>
    match splitAt separator rest with
    | first :: others =>
      if c = separator then [] :: first :: others else (c :: first) :: others
    | [] => [[c]]

namespace Domain

/-- A label of a domain name. -/
structure Label where
  /-- What it says. -/
  text : List Char
  /-- The ASCII characters that it is told by. -/
  ascii : List Char

/-- The characters before the code of a label. -/
def codeMark : List Char := "xn--".toList

/-- Whether all characters are ASCII. -/
def isAscii (cs : List Char) : Bool :=
  cs.all fun c => c.toNat < 0x80

/-- Whether a label can say a text, which is not all ASCII. -/
def isSayable (text : List Char) : Bool :=
  text.all isUsual && !(text.head?.any isMark) && !codeMark.isPrefixOf text && joinersMatter text

/-- The label that some characters in their chosen form tell. -/
def Label.read? (cs : List Char) : Option Label := do
  if codeMark.isPrefixOf cs then
    let code := cs.drop codeMark.length
    guard (code.length ≤ 2000)
    let text ← Punycode.decode code
    guard (!isAscii text && isSayable text && compose text == text)
    return ⟨text, cs⟩
  else if isAscii cs then
    guard (cs.all isUsual)
    return ⟨cs, cs⟩
  else
    guard (isSayable cs && cs.length ≤ 1000)
    return ⟨cs, codeMark ++ Punycode.encode cs⟩

end Domain

open Domain in
/-- The ASCII form of a domain name. -/
def domain? (name : List Char) : Option (List Char) := do
  let labels ← (splitAt '.' (compose (name.flatMap usualForm))).mapM Label.read?
  guard (!(labels.any (·.text.any isTurning)) || labels.all (isOrderly ·.text))
  return ['.'].intercalate (labels.map (·.ascii))

end ServiceHarness.Url
