import ServiceHarness.Text.Numeral

/-!
# Percent encoding

`encode` writes the bytes of certain characters as `%` and two hexadecimal digits, and
`decode` puts the bytes back.  The classes of characters that have to be encoded in each part
of a URL are predicates such as `inPath`.
-/

namespace ServiceHarness.Url.Percent

/-- A byte as it is encoded. -/
def byte (b : UInt8) : List Char :=
  let digit (n : Nat) : Char := (Nat.digitChar n).toUpper
  ['%', digit (b.toNat / 16), digit (b.toNat % 16)]

/-- The characters that are encoded everywhere: control characters and all beyond ASCII. -/
def isControl (c : Char) : Bool :=
  c < ' ' || c.toNat ≥ 0x7f

/-- The characters that are encoded in a fragment. -/
def inFragment (c : Char) : Bool :=
  isControl c || " \"<>`".contains c

/-- The characters that are encoded in a path. -/
def inPath (c : Char) : Bool :=
  inFragment c || "#?\x7b\x7d".contains c

/-- The characters that are encoded in the query of a URL with a host. -/
def inQuery (c : Char) : Bool :=
  isControl c || " \"#<>'".contains c

/-- The characters that are encoded in a name or a password. -/
def inCredentials (c : Char) : Bool :=
  inPath c || "/:;=@[\\]^|".contains c

/-- The text with the bytes of the characters of a class encoded. -/
def encode (p : Char → Bool) (cs : List Char) : List Char :=
  cs.flatMap fun c => if p c then c.toString.toUTF8.toList.flatMap byte else [c]

/-- The bytes of a text, those that are encoded put back. -/
def bytes : List Char → List UInt8
  | '%' :: a :: b :: rest =>
    match Text.digitValue? 16 a, Text.digitValue? 16 b with
    | some x, some y => UInt8.ofNat (16 * x + y) :: bytes rest
    | _, _ => UInt8.ofNat 37 :: bytes (a :: b :: rest)
  | c :: rest => c.toString.toUTF8.toList ++ bytes rest
  | [] => []

/-- The text with all that is encoded put back, if its bytes are those of a text. -/
def decode (cs : List Char) : Option (List Char) :=
  (String.fromUTF8? (ByteArray.mk (bytes cs).toArray)).map String.toList

end ServiceHarness.Url.Percent
