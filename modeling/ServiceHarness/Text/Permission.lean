import ServiceHarness.Text.Numeral

/-!
# Permissions

A mode is a number of nine bits, three each for the owner of a file, its group and others, which
say whether they may read, write and execute it.  `octal` and `symbolic` are its texts, and
`change?` is the mode after a change that a text such as `u+x,go-w` asks for.
-/

namespace ServiceHarness.Text.Permission

/-- The mode that permits everything. -/
def all : Nat :=
  511

/-- The octal text of a number, of so many digits at least. -/
def octal (width mode : Nat) : String :=
  let digits := Nat.toDigits 8 mode
  String.ofList (List.replicate (width - digits.length) '0' ++ digits)

/-- The letters of three bits. -/
def letters (bits : Nat) : List Char :=
  [(4, 'r'), (2, 'w'), (1, 'x')].filterMap fun (bit, c) =>
    if bits / bit % 2 = 1 then some c else none

/-- The text that tells what each may do. -/
def symbolic (mode : Nat) : String :=
  ",".intercalate ([("u", 64), ("g", 8), ("o", 1)].map fun (who, unit) =>
    who ++ "=" ++ String.ofList (letters (mode / unit % 8)))

/-- The letters that say what may be done, as three bits. -/
def bits (cs : List Char) : Nat :=
  (if cs.contains 'r' then 4 else 0) + (if cs.contains 'w' then 2 else 0)
    + (if cs.contains 'x' || cs.contains 'X' then 1 else 0)

/-- Three bits after an operator has been applied with others. -/
def combine (operator : Char) (old new : Nat) : Nat :=
  match operator with
  | '+' => old ||| new
  | '-' => old &&& (7 - new)
  | _ => new

/-- The mode after one change, such as `u+x`. -/
def changeOne? (clause : String) (mode : Nat) : Option Nat := do
  let cs := clause.toList
  let who := cs.takeWhile fun c => "ugoa".contains c
  let operator ← (cs.drop who.length).head?
  guard ("+-=".contains operator)
  let what := cs.drop (who.length + 1)
  guard (what.all fun c => "rwxX".contains c)
  let isMeant (c : Char) : Bool := who.isEmpty || who.contains 'a' || who.contains c
  let part (c : Char) (unit : Nat) : Nat :=
    let old := mode / unit % 8
    unit * (if isMeant c then combine operator old (bits what) else old)
  return part 'u' 64 + part 'g' 8 + part 'o' 1

/-- The mode after some changes with commas between them. -/
def change? (text : String) (mode : Nat) : Option Nat :=
  (text.splitOn ",").foldlM (fun mode clause => changeOne? clause mode) mode

end ServiceHarness.Text.Permission
