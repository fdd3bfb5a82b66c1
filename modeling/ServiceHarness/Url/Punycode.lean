/-!
# Punycode

The code that writes the letters of a label of a domain name with ASCII characters alone:
first the ASCII letters as they are, then for each further character how far it is from the
one before, in numbers with digits of base 36.
-/

namespace ServiceHarness.Url.Punycode

/-- A digit of base 36. -/
def digitChar (d : Nat) : Char :=
  if d < 26 then Char.ofNat (97 + d) else Char.ofNat (22 + d)

/-- The value of a digit of base 36. -/
def digitValue? (c : Char) : Option Nat :=
  if 'a' ≤ c ∧ c ≤ 'z' then some (c.toNat - 97)
  else if 'A' ≤ c ∧ c ≤ 'Z' then some (c.toNat - 65)
  else if '0' ≤ c ∧ c ≤ '9' then some (c.toNat - 22)
  else none

/-- The smallest digit at the position `k` after which a number goes on. -/
def threshold (k bias : Nat) : Nat :=
  if k ≤ bias then 1 else if k ≥ bias + 26 then 26 else k - bias

/-- Divides until the number is small, and counts the divisions in steps of 36. -/
def shrink (delta k : Nat) : Nat × Nat :=
  if 455 < delta then shrink (delta / 35) (k + 36) else (delta, k)
termination_by delta
decreasing_by exact Nat.div_lt_self (by omega) (by omega)

/-- The bias of the next number. -/
def adapt (delta points : Nat) (isFirst : Bool) : Nat :=
  let delta := if isFirst then delta / 700 else delta / 2
  let (delta, k) := shrink (delta + delta / points) 0
  k + 36 * delta / (delta + 38)

/-- The digits of a number from the position `k` on, of which there are at most so many. -/
def encodeNumber (bias : Nat) : Nat → Nat → Nat → List Char
  | 0, _, _ => []
  | fuel + 1, k, q =>
    let t := threshold k bias
    if q < t then [digitChar q]
    else digitChar (t + (q - t) % (36 - t)) :: encodeNumber bias fuel (k + 36) ((q - t) / (36 - t))

/-- How far an encoder has come. -/
structure Encoder where
  /-- The digits so far. -/
  digits : List Char
  /-- The distance from the last character that was written. -/
  delta : Nat
  /-- The bias of the next number. -/
  bias : Nat
  /-- The number of characters that have been written. -/
  written : Nat

/-- Passes by a character while those with the code point `n` are written; `basic` of them are
ASCII. -/
def Encoder.pass (e : Encoder) (basic n : Nat) (c : Char) : Encoder :=
  if c.toNat < n then { e with delta := e.delta + 1 }
  else if c.toNat = n then
    { digits := e.digits ++ encodeNumber e.bias (e.delta + 1) 36 e.delta
      delta := 0
      bias := adapt e.delta (e.written + 1) (e.written == basic)
      written := e.written + 1 }
  else e

/-- Writes the characters with the given code points, which ascend, from `n` on. -/
def Encoder.write (label : List Char) (basic : Nat) : List Nat → Nat → Encoder → Encoder
  | [], _, e => e
  | m :: rest, n, e =>
    let e := { e with delta := e.delta + (m - n) * (e.written + 1) }
    let e := label.foldl (fun e c => e.pass basic m c) e
    Encoder.write label basic rest (m + 1) { e with delta := e.delta + 1 }

/-- The code of a label. -/
def encode (label : List Char) : List Char :=
  let basic := label.filter fun c => c.toNat < 128
  let others := ((label.map Char.toNat).filter (128 ≤ ·)).mergeSort.eraseDups
  let start := if basic.isEmpty then [] else basic ++ ['-']
  let e : Encoder := ⟨[], 0, 72, basic.length⟩
  start ++ (e.write label basic.length others 128).digits

/-- The number that digits write from the position `k` on, and the digits after it. -/
def decodeNumber (bias : Nat) : Nat → Nat → Nat → List Char → Option (Nat × List Char)
  | _, _, _, [] => none
  | k, i, weight, c :: rest => do
    let d ← digitValue? c
    let i := i + d * weight
    let t := threshold k bias
    if d < t then return (i, rest)
    decodeNumber bias (k + 36) i (weight * (36 - t)) rest

/-- Puts the characters that the digits write into a label, beginning at the place `i`; so
many digits are read at most. -/
def decodeFrom : Nat → List Char → Nat → Nat → Nat → List Char → Option (List Char)
  | _, [], _, _, _, label => some label
  | 0, _, _, _, _, _ => none
  | fuel + 1, digits, n, i, bias, label => do
    let (sum, rest) ← decodeNumber bias 36 i 1 digits
    let size := label.length + 1
    let n := n + sum / size
    guard n.isValidChar
    let here := sum % size
    let label := label.take here ++ Char.ofNat n :: label.drop here
    decodeFrom fuel rest n (here + 1) (adapt (sum - i) size (i == 0)) label

/-- What stands before and after the last hyphen. -/
def splitLast (code : List Char) : List Char × List Char :=
  let back := code.reverse
  match back.dropWhile (· != '-') with
  | _ :: before => (before.reverse, (back.takeWhile (· != '-')).reverse)
  | [] => ([], code)

/-- The label that a code stands for. -/
def decode (code : List Char) : Option (List Char) :=
  let (basic, digits) := splitLast code
  if basic.all fun c => c.toNat < 128 then decodeFrom digits.length digits 128 0 72 basic
  else none

end ServiceHarness.Url.Punycode
