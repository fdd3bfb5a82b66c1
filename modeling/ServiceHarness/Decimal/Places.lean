import ServiceHarness.Decimal.Binary64

/-!
# Decimals with a number of places

The text of a number of double precision with a given number of places after the point: `fixed`
without an exponent, `scientific` with one, and `general` the shorter of the two.  A number that
has more places is rounded, a tie to an even digit.
-/

namespace ServiceHarness.Decimal.Places

/-- The digits of a number below so many places. -/
def pointed (digits : List Char) (places : Nat) : String :=
  if places = 0 then String.ofList digits
  else
    let cs := List.replicate (places + 1 - digits.length) '0' ++ digits
    String.ofList (cs.take (cs.length - places) ++ '.' :: cs.drop (cs.length - places))

/-- The number of units of `10 ^ e` in `m * 2 ^ q`, rounded. -/
def units (m : Nat) (q e : Int) : Nat :=
  let value := power 2 q
  let unit := power 10 e
  divRound (m * value.1 * unit.2) (value.2 * unit.1)

/-- The text of `m * 2 ^ q` with so many places. -/
def fixed (m : Nat) (q : Int) (places : Nat) : String :=
  pointed (Nat.toDigits 10 (units m q (-places))) places

/-- The digits of `m * 2 ^ q` with so many places after the first, and the exponent of ten of the
first. -/
def rounded (m : Nat) (q : Int) (places : Nat) : List Char × Int :=
  if m = 0 then (List.replicate (places + 1) '0', 0)
  else
    let exponents := (List.range 640).map fun (i : Nat) => (310 : Int) - i
    let fits (e : Int) : Option (List Char × Int) :=
      let digits := Nat.toDigits 10 (units m q (e - places))
      if digits.length = places + 1 && digits.head? != some '0' then some (digits, e) else none
    (exponents.findSome? fits).getD (List.replicate (places + 1) '0', 0)

/-- The text of an exponent, of two digits at least. -/
def exponentText (e : Int) : String :=
  let digits := Nat.toDigits 10 e.natAbs
  (if e < 0 then "e-" else "e+") ++ String.ofList (List.replicate (2 - digits.length) '0' ++ digits)

/-- The text of `m * 2 ^ q` with an exponent and so many places. -/
def scientific (m : Nat) (q : Int) (places : Nat) : String :=
  let (digits, e) := rounded m q places
  pointed digits places ++ exponentText e

/-- A text without the zeros at the end of its places. -/
def dropZeros (s : String) : String :=
  if s.toList.contains '.' then
    let kept := s.toList.reverse.dropWhile (· == '0')
    String.ofList (if kept.head? = some '.' then kept.drop 1 else kept).reverse
  else s

/-- The text of `m * 2 ^ q` with so many digits, the zeros at its end dropped unless they are to be
kept; with an exponent if that is large or small. -/
def general (m : Nat) (q : Int) (digits : Nat) (keepsZeros : Bool) : String :=
  let places := max digits 1 - 1
  let (ds, e) := rounded m q places
  let drop (s : String) : String := if keepsZeros then s else dropZeros s
  if e < -4 || e > places then drop (pointed ds places) ++ exponentText e
  else drop (fixed m q ((places : Int) - e).toNat)

end ServiceHarness.Decimal.Places
