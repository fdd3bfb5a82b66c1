import ServiceHarness.Decimal.Binary64

/-!
# Shortest decimals

The text of a number of double precision: the decimal with the fewest digits that is rounded
to that number, of several such the nearest, written without an exponent.

`Shortest.onGrid` looks for a multiple of a power of ten among the reals that are rounded to
a number; these reach halfway to its two neighbours, the ends included for an even mantissa.
If a grid has a point there, so has one of the two around the number.
-/

namespace ServiceHarness.Decimal

namespace Shortest

/-- The multiple of `10 ^ e`, told by its factor, that is rounded to `m * 2 ^ q`, if there is
one: the nearer of two, and the larger of two equally near ones. -/
def onGrid (m : Nat) (q e : Int) : Option Nat :=
  let unit := power 2 (q - 2)
  let grid := power 10 e
  let middle := 4 * m * unit.1 * grid.2
  let below := if m = Binary64.leading ∧ q > Binary64.minExponent then 1 else 2
  let lower := (4 * m - below) * unit.1 * grid.2
  let upper := (4 * m + 2) * unit.1 * grid.2
  let step := grid.1 * unit.2
  let fits (d : Nat) : Bool :=
    if m % 2 = 0 then lower ≤ d * step && d * step ≤ upper
    else lower < d * step && d * step < upper
  let d := middle / step
  match fits d, fits (d + 1) with
  | true, true => some (if middle - d * step < (d + 1) * step - middle then d else d + 1)
  | true, false => some d
  | false, true => some (d + 1)
  | false, false => none

/-- The digits and the power of ten of the decimal for `m * 2 ^ q`, which is not zero: the
one on the coarsest grid that has a fitting point. -/
def decimal (m : Nat) (q : Int) : Nat × Int :=
  let grids := (List.range 700).map fun (i : Nat) => (310 : Int) - i
  (grids.findSome? fun e => (onGrid m q e).map (·, e)).getD (0, 0)

/-- The text of `digits * 10 ^ exponent` without an exponent. -/
def positional (digits : Nat) (exponent : Int) : String :=
  let cs := Nat.toDigits 10 digits
  if 0 ≤ exponent then String.ofList (cs ++ List.replicate exponent.toNat '0')
  else
    let places := (-exponent).toNat
    let cs := List.replicate (places + 1 - cs.length) '0' ++ cs
    String.ofList (cs.take (cs.length - places) ++ '.' :: cs.drop (cs.length - places))

end Shortest

/-- The shortest decimal of a number. -/
def Binary64.text : Binary64 → String
  | .nan => "NaN"
  | .infinite negative => if negative then "-inf" else "inf"
  | .finite negative m q =>
    let digits := if m = 0 then "0" else
      let d := Shortest.decimal m q
      Shortest.positional d.1 d.2
    if negative then "-" ++ digits else digits

end ServiceHarness.Decimal
