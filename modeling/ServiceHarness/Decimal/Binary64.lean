/-!
# Binary numbers of double precision

A `Binary64` is a floating-point number with 53 binary digits.  `Binary64.ofDecimal` is the
one nearest to a decimal number, of two equally near ones the one whose last digit is zero,
and `Binary64.toWord` the nearest unsigned 64-bit word.
-/

namespace ServiceHarness.Decimal

/-- A number of double precision.  The finite ones are `mantissa * 2 ^ exponent` with a
mantissa below `2 ^ 53` and an exponent from `-1074` to `971`; the mantissa is at least
`2 ^ 52` unless the exponent is the smallest. -/
inductive Binary64 where
  /-- A finite number. -/
  | finite (negative : Bool) (mantissa : Nat) (exponent : Int)
  /-- An infinity. -/
  | infinite (negative : Bool)
  /-- No number. -/
  | nan
  deriving DecidableEq, Repr

/-- The quotient rounded to the nearest natural number, a tie to the even one. -/
def divRound (num den : Nat) : Nat :=
  let q := num / den
  let r := num % den
  if 2 * r > den || (2 * r == den && q % 2 == 1) then q + 1 else q

/-- Numerator and denominator of `base ^ exponent`. -/
def power (base : Nat) (exponent : Int) : Nat × Nat :=
  if 0 ≤ exponent then (Nat.pow base exponent.toNat, 1) else (1, Nat.pow base (-exponent).toNat)

namespace Binary64

/-- The smallest exponent. -/
def minExponent : Int :=
  -1074

/-- The largest exponent. -/
def maxExponent : Int :=
  971

/-- The weight of the first of the 53 digits of a mantissa. -/
def leading : Nat :=
  Nat.pow 2 52

/-- Zero with a sign. -/
def zero (negative : Bool) : Binary64 :=
  .finite negative 0 minExponent

/-- The number nearest to the quotient of two positive numbers, with a sign. -/
def ofQuotient (negative : Bool) (num den : Nat) : Binary64 :=
  let scaled (f : Nat → Nat → Nat) (q : Int) : Nat :=
    let unit := power 2 q
    f (num * unit.2) (den * unit.1)
  let q : Int := num.log2 - den.log2 - 53
  let q := if scaled (· / ·) q < 2 * leading then q else q + 1
  let q := max q minExponent
  let m := scaled divRound q
  let (m, q) := if m = 2 * leading then (leading, q + 1) else (m, q)
  if q > maxExponent then .infinite negative else .finite negative m q

/-- The number nearest to `digits * 10 ^ exponent`, with a sign. -/
def ofDecimal (negative : Bool) (digits : Nat) (exponent : Int) : Binary64 :=
  let size : Int := (Nat.toDigits 10 digits).length
  if digits = 0 ∨ exponent + size < -400 then zero negative
  else if exponent + size > 400 then .infinite negative
  else
    let unit := power 10 exponent
    ofQuotient negative (digits * unit.1) unit.2

/-- The number with the other sign. -/
def negate : Binary64 → Binary64
  | .finite negative m q => .finite (!negative) m q
  | .infinite negative => .infinite (!negative)
  | .nan => .nan

/-- The nearest unsigned 64-bit word, a half rounded up; no number is taken as zero. -/
def toWord : Binary64 → Nat
  | .nan => 0
  | .infinite negative => if negative then 0 else UInt64.size - 1
  | .finite true _ _ => 0
  | .finite false m q =>
    let unit := power 2 q
    min ((2 * m * unit.1 + unit.2) / (2 * unit.2)) (UInt64.size - 1)

end Binary64

end ServiceHarness.Decimal
