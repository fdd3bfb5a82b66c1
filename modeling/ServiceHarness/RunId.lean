/-!
# The names of runs

A run is named by 128 random bits in five groups of hexadecimal digits.  Six of the bits are
fixed: they tell that the others are random.
-/

namespace ServiceHarness.RunId

/-- The lowest hexadecimal digits of a word, so many of them. -/
def digits (n : Nat) (w : UInt64) : String :=
  let ds := Nat.toDigits 16 (w.toNat % Nat.pow 16 n)
  String.ofList (List.replicate (n - ds.length) '0' ++ ds)

/-- The name that two random words give. -/
def ofWords (high low : UInt64) : String :=
  let high := (high &&& 0xffffffffffff0fff) ||| 0x4000
  let low := (low &&& 0x3fffffffffffffff) ||| 0x8000000000000000
  "-".intercalate [digits 8 (high >>> 32), digits 4 (high >>> 16), digits 4 high,
    digits 4 (low >>> 48), digits 12 low]

end ServiceHarness.RunId
