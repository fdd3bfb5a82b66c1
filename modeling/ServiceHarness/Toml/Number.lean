import ServiceHarness.Text.Numeral
import ServiceHarness.Toml.Basic
import ServiceHarness.Scan

/-!
# Numbers of TOML

`number` takes an integer of 64 bits or a floating-point number.  Between two digits there may
be an underscore.  A decimal integer begins with a zero only if that is all of it.
-/

namespace ServiceHarness.Toml.Grammar

open Scan

/-- A digit of a class, after an underscore or not. -/
def laterDigit (p : Char → Bool) : Scan Char := do
  let _ ← opt (char '_')
  one p

/-- Digits of a class with underscores between them. -/
def digitRun (p : Char → Bool) : Scan (List Char) := do
  let first ← one p
  return first :: (← many (laterDigit p))

/-- Decimal digits that write an integer. -/
def integerDigits : Scan (List Char) := do
  if ← sees (char '0') then return [← one (· == '0')]
  digitRun Char.isDigit

/-- A sign, and whether it is negative. -/
def sign : Scan Bool := do
  return (← opt (one fun c => c == '+' || c == '-')) == some '-'

/-- An integer in the range of 64 bits. -/
def bounded (n : Int) : Scan Value := do
  guard (Int64.minValue.toInt ≤ n ∧ n ≤ Int64.maxValue.toInt)
  return .integer n

/-- An integer in a base that a letter tells. -/
def based (letter : String) (base : Nat) : Scan Value := do
  exactly letter
  let ds ← digitRun fun c => (Text.digitValue? base c).isSome
  bounded (← StateT.lift (Text.natural? base ds))

/-- A decimal integer. -/
def decimalInteger : Scan Value := do
  let negative ← sign
  let n ← StateT.lift (Text.natural? 10 (← integerDigits))
  bounded (if negative then -n else n)

/-- An integer. -/
def integer : Scan Value :=
  based "0x" 16 <|> based "0o" 8 <|> based "0b" 2 <|> decimalInteger

/-- The digits after the point. -/
def fraction : Scan (List Char) := do
  char '.'
  digitRun Char.isDigit

/-- The exponent. -/
def exponent : Scan Int := do
  let _ ← one fun c => c == 'e' || c == 'E'
  let negative ← sign
  let n ← StateT.lift (Text.natural? 10 (← digitRun Char.isDigit))
  return if negative then -n else n

/-- A decimal floating-point number; it has a fraction, an exponent or both, and is not
above the largest number. -/
def decimalFloat : Scan Value := do
  let negative ← sign
  let whole ← integerDigits
  let places ← opt fraction
  let power ← opt exponent
  guard (places.isSome || power.isSome)
  let places := places.getD []
  let n ← StateT.lift (Text.natural? 10 (whole ++ places))
  let x := Decimal.Binary64.ofDecimal negative n (power.getD 0 - places.length)
  guard (x ≠ .infinite false)
  return .float x

/-- Infinity or no number, with or without a sign. -/
def specialFloat : Scan Value := do
  let negative ← sign
  let x ← (do exactly "inf"; return Decimal.Binary64.infinite false)
    <|> (do exactly "nan"; return .nan)
  return .float (if negative then x.negate else x)

/-- A number. -/
def number : Scan Value :=
  decimalFloat <|> specialFloat <|> integer

end ServiceHarness.Toml.Grammar
