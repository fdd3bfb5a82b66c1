/-!
# Character classes

A `CharacterClass` is one of the classes of characters that patterns know by name.  No character
beyond ASCII is in any of them.  A `Member` of a set of characters is a range or a class.
-/

namespace ServiceHarness.Text

/-- A class of characters. -/
inductive CharacterClass where
  /-- Letters and digits. -/
  | alnum
  /-- Letters. -/
  | alpha
  /-- The blank and the tabulator. -/
  | blank
  /-- Characters that are not shown. -/
  | cntrl
  /-- Digits. -/
  | digit
  /-- Characters that are shown, but for the blank. -/
  | graph
  /-- Small letters. -/
  | lower
  /-- Characters that are shown. -/
  | print
  /-- Characters that are shown and are neither blank, letter nor digit. -/
  | punct
  /-- Characters that make room. -/
  | space
  /-- Capital letters. -/
  | upper
  /-- Digits to the base sixteen. -/
  | xdigit
  deriving DecidableEq, Repr

namespace CharacterClass

/-- The classes by name. -/
def names : List (String × CharacterClass) :=
  [("alnum", .alnum), ("alpha", .alpha), ("blank", .blank), ("cntrl", .cntrl), ("digit", .digit),
    ("graph", .graph), ("lower", .lower), ("print", .print), ("punct", .punct),
    ("space", .space), ("upper", .upper), ("xdigit", .xdigit)]

/-- Whether a character is in a class. -/
def contains (k : CharacterClass) (c : Char) : Bool :=
  match k with
  | alnum => c.isAlphanum
  | alpha => c.isAlpha
  | blank => c == ' ' || c == '\t'
  | cntrl => c.toNat < 32 || c.toNat == 127
  | digit => c.isDigit
  | graph => 32 < c.toNat && c.toNat < 127
  | lower => c.isLower
  | print => 32 ≤ c.toNat && c.toNat < 127
  | punct => 32 < c.toNat && c.toNat < 127 && !c.isAlphanum
  | space => " \t\n\x0b\x0c\r".contains c
  | upper => c.isUpper
  | xdigit => c.isDigit || ('a' ≤ c && c ≤ 'f') || ('A' ≤ c && c ≤ 'F')

/-- The characters of a class in ascending order. -/
def members (k : CharacterClass) : List Char :=
  (List.range 128).map Char.ofNat |>.filter k.contains

/-- The class that stands at the front of the characters after a bracket, as in `:alpha:]`, and
what follows. -/
def read? : List Char → Option (CharacterClass × List Char)
  | ':' :: rest =>
    let name := rest.takeWhile (· != ':')
    match names.lookup (String.ofList name), rest.drop name.length with
    | some k, ':' :: ']' :: after => some (k, after)
    | _, _ => none
  | _ => none

end CharacterClass

/-- A member of a set of characters. -/
inductive Member where
  /-- The characters from one to another. -/
  | range (first last : Char)
  /-- The characters of a class. -/
  | ofClass (k : CharacterClass)
  deriving DecidableEq, Repr

/-- Whether a character is meant. -/
def Member.admits (c : Char) : Member → Bool
  | .range first last => first ≤ c && c ≤ last
  | .ofClass k => k.contains c

end ServiceHarness.Text
