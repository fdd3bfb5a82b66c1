import ServiceHarness.Machine.Utility.Order
import ServiceHarness.Text.Format

/-!
# Utilities on numbers

`seq` puts out the numbers from one to another, and `factor` the prime factors of numbers.
-/

namespace ServiceHarness.Utility

/-- A number as it was written. -/
structure Numeral where
  /-- The number. -/
  value : Scaled
  /-- The number of its places after the point. -/
  places : Nat
  /-- The number of its characters. -/
  width : Nat
  /-- Whether it has an exponent. -/
  isScientific : Bool

/-- The number that some characters write, without a sign. -/
def unsignedNumeral? (cs : List Char) : Option (Scaled × Nat × Bool) :=
  match cs with
  | '0' :: x :: digits =>
    if x = 'x' || x = 'X' then (Text.natural? 16 digits).map fun n => (⟨n, 0⟩, 0, false)
    else decimal
  | _ => decimal
where
  /-- The number that the digits write, with a point or an exponent among them. -/
  decimal : Option (Scaled × Nat × Bool) := do
    let whole := cs.takeWhile Char.isDigit
    let after := cs.drop whole.length
    let places := if after.head? = some '.' then (after.drop 1).takeWhile Char.isDigit else []
    let rest := if after.head? = some '.' then after.drop (1 + places.length) else after
    let n ← Text.natural? 10 (whole ++ places)
    match rest with
    | [] => return (⟨n, -places.length⟩, places.length, false)
    | e :: exponent =>
      guard (e == 'e' || e == 'E')
      let isNegative := exponent.head? = some '-'
      let digits := if isNegative || exponent.head? = some '+' then exponent.drop 1 else exponent
      let x : Int := min (← Text.natural? 10 digits) 400
      let x := if isNegative then -x else x
      return (⟨n, x - places.length⟩, ((places.length : Int) - x).toNat, true)

/-- The number that a text writes. -/
def numeral? (text : String) : Option Numeral := do
  let cs := text.toList.dropWhile (· == ' ')
  let isNegative := cs.head? = some '-'
  let body := if isNegative || cs.head? = some '+' then cs.drop 1 else cs
  let (value, places, isScientific) ← unsignedNumeral? body
  let value := if isNegative then { value with units := -value.units } else value
  let width := if cs.head? = some '+' then body.length else cs.length
  return ⟨value, places, if body.head? = some '.' then width + 1 else width, isScientific⟩

/-- The number of units of a number, each of which is so many places after the point. -/
def Scaled.unitsAt (s : Scaled) (places : Nat) : Int :=
  s.units * (Nat.pow 10 (s.exponent + places).toNat : Nat)

/-- The text of a number of units with so many places, in the last of so many columns. -/
def pointText (places width : Nat) (units : Int) : String :=
  let digits := Decimal.Places.pointed (Nat.toDigits 10 units.natAbs) places
  let sign := if units < 0 then "-" else ""
  let zeros := List.replicate (width - digits.length - sign.length) '0'
  sign ++ String.ofList zeros ++ digits

/-- The most numbers that are put out. -/
def numberLimit : Nat :=
  100000

/-- The numbers from the first to the last by a step. -/
def numbersFrom (first step last : Int) : List Int :=
  let count :=
    if step = 0 then 0
    else if step > 0 then if last < first then 0 else ((last - first) / step).toNat + 1
    else if first < last then 0 else ((first - last) / -step).toNat + 1
  (List.range (min count numberLimit)).map fun (i : Nat) => first + i * step

/-- Whether an argument is a negative number. -/
def isNegativeNumber (arg : String) : Bool :=
  match arg.toList with
  | '-' :: c :: _ => c.isDigit || c == '.'
  | _ => false

/-- The arguments with the end of the options before a negative number that follows them. -/
def withNegatives : List String → List String
  | [] => []
  | [arg] => if isNegativeNumber arg then ["--", arg] else [arg]
  | arg :: value :: rest =>
    if arg = "--" then arg :: value :: rest
    else if isNegativeNumber arg then "--" :: arg :: value :: rest
    else if ["-s", "-f"].contains arg then arg :: value :: withNegatives rest
    else if arg.startsWith "-" then arg :: withNegatives (value :: rest)
    else arg :: value :: rest

/-- Puts out numbers. -/
def seq : Utility := Task.utility fun args => do
  let o ← Task.options
    [.plain 'w' "equal-width", .valued 's' "separator", .valued 'f' "format"]
    (withNegatives args) 1 true
  let operands ← Task.someOperands o
  if operands.length > 3 then
    let shown := Name.quoted (operands.getD 3 "")
    Task.refuse s!"extra operand {shown}"
  let numerals ← operands.mapM fun text => match numeral? text with
    | some n => pure n
    | none => do
      let shown := Name.quoted text
      Task.refuse s!"invalid floating point argument: {shown}"
  let one : Numeral := ⟨⟨1, 0⟩, 0, 1, false⟩
  let (first, step, last) := match numerals with
    | [first, step, last] => (first, step, last)
    | [first, last] => (first, one, last)
    | [last] => (one, one, last)
    | _ => (one, one, one)
  if step.value.units = 0 then
    let shown := Name.quoted (operands.getD 1 "")
    Task.refuse s!"invalid Zero increment value: {shown}"
  let places := max first.places step.places
  let scale := max places last.places
  let numbers := numbersFrom (first.value.unitsAt scale) (step.value.unitsAt scale)
    (last.value.unitsAt scale)
  let widthOf (n : Numeral) : Nat :=
    let width := n.width + places - n.places
    if n.places = 0 && places ≠ 0 then width + 1
    else if n.places ≠ 0 && places = 0 then width - 1 else width
  let width := if o.has "equal-width" then max (widthOf first) (widthOf last) else 0
  let drop : Int := (Nat.pow 10 (scale - places) : Nat)
  let text (n : Int) : String := pointText places width (n / drop)
  let texts ← match o.value? "format" with
    | none => pure (numbers.map text)
    | some format =>
      let shown := Name.quoted format
      if !format.toList.contains '%' then Task.fail s!"format {shown} has no % directive"
      pure (numbers.map fun n => (Text.Format.fill format [text n]).text)
  if !texts.isEmpty then
    Task.say (((o.value? "separator").getD "\n").intercalate texts ++ "\n")

/-- The prime factors of a number from a divisor on, where so many divisors at most are tried. -/
def factorsFrom : Nat → Nat → Nat → List Nat
  | 0, _, n => [n]
  | limit + 1, d, n =>
    if n < 2 then []
    else if n < d * d then [n]
    else if n % d = 0 then d :: factorsFrom limit d (n / d)
    else factorsFrom limit (d + 1) n

/-- Puts out the prime factors of numbers. -/
def factor : Utility := Task.utility fun args => do
  let o ← Task.options [.plain 'h' "exponents"] args
  let texts ← if o.operands.isEmpty then
      return ← match ← Task.input "-" with
        | .ok text => factorAll ((text.split fun c => isBlank c).toList.map (·.toString))
        | .error _ => pure ()
    else pure o.operands
  factorAll texts
where
  /-- Puts out the factors of the numbers that texts write. -/
  factorAll (texts : List String) : Task Unit := do
    for text in texts.filter (· != "") do
      match Text.natural? 10 (Text.dropPlus text.toList) with
      | some n =>
        let factors := factorsFrom 2000000 2 n
        Task.say (s!"{n}:" ++ String.join (factors.map fun p => s!" {p}") ++ "\n")
      | none =>
        let shown := Name.quoted text
        Task.complain s!"{shown} is not a valid positive integer"

end ServiceHarness.Utility
