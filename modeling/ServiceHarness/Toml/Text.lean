import ServiceHarness.Text.Numeral
import ServiceHarness.Scan

/-!
# Blanks and strings of TOML

What stands between the parts of a document (`blanks`, `comment`, `newline`), the four forms
of a string (`string`) and the three forms of a key (`key`).
-/

namespace ServiceHarness.Toml.Grammar

open Scan

/-- The nesting of arrays, inline tables and dotted keys stays below this limit. -/
def nestingLimit : Nat :=
  80

/-- The blanks within a line. -/
def isBlank (c : Char) : Bool :=
  c == ' ' || c == '\t'

/-- The characters that may stand in a comment: all but the control characters other than
the tabulator. -/
def isPlain (c : Char) : Bool :=
  c == '\t' || c ≥ ' ' && c.toNat != 0x7f

/-- As many blanks as there are. -/
def blanks : Scan Unit := do
  let _ ← span isBlank

/-- The end of a line. -/
def newline : Scan Unit :=
  char '\n' <|> exactly "\r\n"

/-- The end of a line or of the document. -/
def lineEnd : Scan Unit :=
  newline <|> atEnd

/-- A comment up to the end of its line. -/
def comment : Scan Unit := do
  char '#'
  let _ ← span isPlain

/-- What may follow in a line after the last thing that counts. -/
def lineRest : Scan Unit := do
  blanks
  let _ ← opt comment
  lineEnd

/-- Blanks, comments and ends of lines. -/
def blankLines : Scan Unit := do
  let _ ← many (newline <|> (do let _ ← one isBlank) <|> (do comment; newline))

/-- The character that so many hexadecimal digits number. -/
def numbered (digits : Nat) : Scan Char := do
  let ds ← exactlyMany digits fun c => (Text.digitValue? 16 c).isSome
  let n ← StateT.lift (Text.natural? 16 ds)
  guard n.isValidChar
  return Char.ofNat n

/-- The character that follows a backslash, as it is meant. -/
def escaped : Scan Char := do
  match ← one fun _ => true with
  | 'b' => return '\x08'
  | 't' => return '\t'
  | 'n' => return '\n'
  | 'f' => return '\x0c'
  | 'r' => return '\r'
  | '"' => return '"'
  | '\\' => return '\\'
  | 'u' => numbered 4
  | 'U' => numbered 8
  | _ => failure

/-- A character of a string with escapes. -/
def basicChar : Scan Char :=
  one (fun c => isPlain c && c != '"' && c != '\\') <|> (do char '\\'; escaped)

/-- A string between double quotes. -/
def basic : Scan String := do
  char '"'
  let cs ← many basicChar
  char '"'
  return String.ofList cs

/-- A string between apostrophes. -/
def literal : Scan String := do
  char '\''
  let cs ← span fun c => isPlain c && c != '\''
  char '\''
  return String.ofList cs

/-- A backslash at the end of a line, with all blanks and ends of lines after it. -/
def continuation : Scan Unit := do
  char '\\'
  blanks
  newline
  let _ ← many (newline <|> (do let _ ← one isBlank))

/-- One or two quotes that are followed by none. -/
def fewQuotes (quote : Char) : Scan (List Char) := do
  let qs ← span (· == quote)
  guard (qs.length = 1 ∨ qs.length = 2)
  return qs

/-- The end of a string of several lines: three quotes, before which two more belong to the
string. -/
def lastQuotes (quote : Char) : Scan (List Char) := do
  let qs ← span (· == quote)
  guard (3 ≤ qs.length ∧ qs.length ≤ 5)
  return qs.drop 3

/-- A string of several lines, made of the given contents, of single ends of lines and of a
few quotes. -/
def multiline (quote : Char) (content : Scan (List Char)) : Scan String := do
  exactly (String.ofList [quote, quote, quote])
  let _ ← opt newline
  let parts ← many (content <|> (do newline; return ['\n']) <|> fewQuotes quote)
  let last ← lastQuotes quote
  return String.ofList (parts.flatten ++ last)

/-- A string of several lines with escapes. -/
def multilineBasic : Scan String :=
  multiline '"' ((do continuation; return []) <|> (do return [← basicChar]))

/-- A string of several lines without escapes. -/
def multilineLiteral : Scan String :=
  multiline '\'' do return [← one fun c => isPlain c && c != '\'']

/-- A string of any form.  Three quotes begin one of several lines. -/
def string : Scan String := do
  if ← sees (exactly "\"\"\"") then multilineBasic
  else if ← sees (exactly "'''") then multilineLiteral
  else basic <|> literal

/-- The characters of a key without quotes. -/
def isKeyChar (c : Char) : Bool :=
  c.isAlphanum || c == '_' || c == '-'

/-- A key without dots. -/
def simpleKey : Scan String :=
  basic <|> literal <|> do
    let cs ← span isKeyChar
    guard !cs.isEmpty
    return String.ofList cs

/-- A key with dots, as the keys between them. -/
def key : Scan (List String) := do
  let keys ← separated (do blanks; let k ← simpleKey; blanks; return k) (char '.')
  guard (keys.length < nestingLimit)
  return keys

end ServiceHarness.Toml.Grammar
