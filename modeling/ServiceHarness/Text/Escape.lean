import ServiceHarness.Scan
import ServiceHarness.Text.Numeral

/-!
# Backslash escapes

In a text with escapes a backslash and a letter stand for a control character, and a backslash
and the digits of a number for the character of that number.  `\c` ends the text.
-/

namespace ServiceHarness.Text.Escape

open Scan

/-- The character for which a letter after a backslash stands. -/
def named : List (Char × Char) :=
  [('a', '\x07'), ('b', '\x08'), ('f', '\x0c'), ('n', '\n'), ('r', '\r'), ('t', '\t'),
    ('v', '\x0b'), ('e', '\x1b'), ('\\', '\\')]

/-- Whether a character is an octal digit. -/
def isOctal (c : Char) : Bool :=
  (digitValue? 8 c).isSome

/-- Between one and three octal digits. -/
def octal : Scan Char := do
  let digits ← upTo (one isOctal) 3
  let value ← natural? 8 digits
  return Char.ofNat (value % 256)

/-- One or two digits to the base sixteen. -/
def hexadecimal : Scan Char := do
  let digits ← upTo (one fun c => (digitValue? 16 c).isSome) 2
  let value ← natural? 16 digits
  return Char.ofNat value

/-- One character of the text, if it does not end here.  Where octal numbers are marked they
may have a zero in front, and numbers to the base sixteen are known where that is asked for. -/
def character (marked : Bool) (knowsHexadecimal : Bool := false) : Scan Char := do
  let c ← one fun _ => true
  if c ≠ '\\' then return c
  let escaped : Scan Char := do
    let c ← one fun c => (named.lookup c).isSome
    named.lookup c
  let markedNumber : Scan Char := do
    guard marked
    char '0'
    octal <|> pure (Char.ofNat 0)
  let otherNumber : Scan Char := do
    guard knowsHexadecimal
    char 'x'
    hexadecimal
  let plain : Scan Char := do
    guard !(← sees (char 'c'))
    return '\\'
  escaped <|> markedNumber <|> octal <|> otherNumber <|> plain

/-- The text for which a text with escapes stands, and whether it goes to its end. -/
def resolve (s : String) (knowsHexadecimal : Bool := false) : String × Bool :=
  match (many (character true knowsHexadecimal)).run s.toList with
  | some (cs, rest) => (String.ofList cs, rest.isEmpty)
  | none => ("", false)

end ServiceHarness.Text.Escape
