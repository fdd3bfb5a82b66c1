import ServiceHarness.Decimal.Places
import ServiceHarness.Text.Escape

/-!
# Formats

A format is a text in which conversions such as `%5d` stand for arguments.  `Format.fill` puts
the arguments in; a format that takes arguments is used again until all are taken, and where
they are short, numbers are zero and texts empty.
-/

namespace ServiceHarness.Text.Format

open Scan

/-- A width or a number of places. -/
inductive Size where
  /-- It is given. -/
  | given (n : Nat)
  /-- It is an argument. -/
  | argument
  deriving DecidableEq, Repr

/-- A conversion. -/
structure Conversion where
  /-- The marks between the percent sign and the width. -/
  flags : List Char
  /-- The least width. -/
  width : Size
  /-- The number after the point. -/
  precision : Option Size
  /-- The letter that tells what is converted. -/
  letter : Char
  deriving DecidableEq, Repr

/-- A part of a format. -/
inductive Part where
  /-- A character that stands for itself. -/
  | character (c : Char)
  /-- A place for an argument. -/
  | place (c : Conversion)
  /-- A conversion that there is not, or the end where its letter should stand. -/
  | invalid (text : String) (isComplete : Bool)
  deriving DecidableEq, Repr

/-- A width or a number of places, if there is one. -/
def size : Scan (Option Size) := do
  if (← opt (char '*')).isSome then return some .argument
  return (natural? 10 (← span Char.isDigit)).map .given

/-- A conversion. -/
def conversion : Scan Part := do
  char '%'
  let start ← get
  let flags ← span fun c => "-+ 0#".contains c
  let width ← size
  let precision ← opt do
    char '.'
    return (← size).getD (.given 0)
  let spent := start.take (start.length - (← get).length)
  match ← opt (one fun _ => true) with
  | none => return .invalid "" false
  | some letter =>
    if letter == '%' && spent.isEmpty then return .character '%'
    else if "sdiuoxXcbeEfFgG".contains letter then
      return .place ⟨flags, width.getD (.given 0), precision, letter⟩
    else return .invalid (String.ofList ('%' :: spent ++ [letter])) true

/-- A part of a format. -/
def part : Scan Part := do
  conversion <|> .character <$> do
    guard !(← sees (char '%'))
    Escape.character false <|> one fun _ => true

/-- The parts of a format. -/
def parts (s : String) : List Part :=
  (((many part).run s.toList).map (·.1)).getD []

/-! ### Arguments -/

/-- What an argument has to say where a number is wanted. -/
structure Reading (α : Type) where
  /-- The number. -/
  value : α
  /-- What is wrong with it, if something is. -/
  fault : Option String := none

/-- What is wrong with an argument of which so much is no number. -/
def faultOf (arg : String) (rest : List Char) : Option String :=
  if rest.isEmpty then none
  else if rest.length = arg.length then some s!"{arg}: expected numeric value"
  else some s!"{arg}: not completely converted"

/-- The whole number that an argument begins with: decimal, octal after a zero, hexadecimal after
`0x`, or the number of the character after a quote. -/
def integer (arg : String) : Reading Int :=
  let magnitude (cs : List Char) : Option (Nat × List Char) :=
    let of (base : Nat) (cs : List Char) : Option (Nat × List Char) :=
      let ds := cs.takeWhile fun c => (digitValue? base c).isSome
      (natural? base ds).map (·, cs.drop ds.length)
    match cs with
    | '0' :: 'x' :: rest => (of 16 rest).getD (0, 'x' :: rest)
    | '0' :: 'X' :: rest => (of 16 rest).getD (0, 'X' :: rest)
    | '0' :: _ => of 8 cs
    | _ => of 10 cs
  let signed (negative : Bool) (cs : List Char) : Reading Int :=
    match magnitude cs with
    | some (n, rest) => ⟨if negative then -n else n, faultOf arg rest⟩
    | none => ⟨0, faultOf arg arg.toList⟩
  match arg.toList.dropWhile fun c => " \t\n\x0b\x0c\r".contains c with
  | '\'' :: rest => ⟨(rest.head?.map fun c => (c.toNat : Int)).getD 0, none⟩
  | '"' :: rest => ⟨(rest.head?.map fun c => (c.toNat : Int)).getD 0, none⟩
  | '-' :: cs => signed true cs
  | '+' :: cs => signed false cs
  | cs => signed false cs

/-- The number that an argument begins with. -/
def real (arg : String) : Reading Decimal.Binary64 :=
  let scanned : Scan Decimal.Binary64 := do
    let negative := (← opt (one fun c => c == '-' || c == '+')) == some '-'
    let whole ← span Char.isDigit
    let fraction ← opt do
      char '.'
      span Char.isDigit
    let digits := whole ++ fraction.getD []
    guard !digits.isEmpty
    let exponent ← opt do
      let _ ← one fun c => c == 'e' || c == 'E'
      let negative := (← opt (one fun c => c == '-' || c == '+')) == some '-'
      let n ← natural? 10 (← span Char.isDigit)
      return if negative then -(n : Int) else n
    let n ← natural? 10 digits
    return Decimal.Binary64.ofDecimal negative n
      (exponent.getD 0 - ((fraction.getD []).length : Int))
  match arg.toList with
  | '\'' :: c :: _ => ⟨.ofDecimal false c.toNat 0, none⟩
  | '"' :: c :: _ => ⟨.ofDecimal false c.toNat 0, none⟩
  | cs =>
    match scanned.run (cs.dropWhile fun c => c == ' ' || c == '\t' || c == '\n') with
    | some (n, rest) => ⟨n, faultOf arg rest⟩
    | none => ⟨.zero false, faultOf arg cs⟩

/-! ### Conversions -/

/-- How a conversion shows something. -/
structure Style where
  /-- The marks. -/
  flags : List Char
  /-- The least width. -/
  width : Nat
  /-- The number of places or characters. -/
  precision : Option Nat
  /-- The letter. -/
  letter : Char
  deriving DecidableEq, Repr

namespace Style

/-- The text in at least the width of a style; zeros may take the place of blanks. -/
def pad (c : Style) (sign body : String) (zeros : Bool) : String :=
  let room := c.width - (sign.length + body.length)
  if c.flags.contains '-' then sign ++ body ++ String.ofList (List.replicate room ' ')
  else if zeros && c.flags.contains '0' then
    sign ++ String.ofList (List.replicate room '0') ++ body
  else String.ofList (List.replicate room ' ') ++ sign ++ body

/-- The sign that is shown. -/
def sign (c : Style) (negative : Bool) : String :=
  if negative then "-" else if c.flags.contains '+' then "+"
  else if c.flags.contains ' ' then " " else ""

/-- A whole number in a style. -/
def integerText (c : Style) (n : Int) : String :=
  let isSigned := c.letter == 'd' || c.letter == 'i'
  let magnitude := if isSigned then n.natAbs else (n % UInt64.size).toNat
  let base := match c.letter with
    | 'o' => 8
    | 'x' | 'X' => 16
    | _ => 10
  let digits := if magnitude = 0 ∧ c.precision = some 0 then [] else Nat.toDigits base magnitude
  let digits := if c.letter == 'X' then digits.map Char.toUpper else digits
  let zeros := List.replicate (c.precision.getD 0 - digits.length) '0'
  let marked := c.flags.contains '#' && magnitude ≠ 0
  let mark := match c.letter with
    | 'x' => if marked then "0x" else ""
    | 'X' => if marked then "0X" else ""
    | 'o' => if marked && zeros.isEmpty then "0" else ""
    | _ => ""
  let sign := if isSigned then c.sign (n < 0) else ""
  c.pad (sign ++ mark) (String.ofList (zeros ++ digits)) c.precision.isNone

/-- A number with places in a style. -/
def realText (c : Style) (x : Decimal.Binary64) : String :=
  let isUpper := "EFG".contains c.letter
  let cased (s : String) : String :=
    if isUpper then String.ofList (s.toList.map Char.toUpper) else s
  match x with
  | .nan => c.pad "" (cased "nan") false
  | .infinite negative => c.pad (c.sign negative) (cased "inf") false
  | .finite negative m q =>
    let places := c.precision.getD 6
    let body := match c.letter.toLower with
      | 'e' => Decimal.Places.scientific m q places
      | 'g' => Decimal.Places.general m q places (c.flags.contains '#')
      | _ => Decimal.Places.fixed m q places
    c.pad (c.sign negative) (cased body) true

end Style

/-! ### Filling -/

/-- What has been put in so far. -/
structure Filling where
  /-- The text. -/
  text : String := ""
  /-- The arguments that are left. -/
  args : List String
  /-- What was wrong with arguments, the last one first. -/
  faults : List String := []
  /-- What is wrong with the format, if something is. -/
  refusal : Option String := none
  /-- Whether the text has been ended. -/
  ended : Bool := false

namespace Filling

/-- The filling without its first argument. -/
def spend (f : Filling) : Filling :=
  { f with args := f.args.drop 1 }

/-- A number that may be an argument, and the filling after that. -/
def sized (f : Filling) : Size → Int × Filling
  | .given n => (n, f)
  | .argument =>
    let r := integer (f.args.headD "0")
    (r.value, { f.spend with faults := r.fault.toList ++ f.faults })

/-- The filling with a text at its end. -/
def push (f : Filling) (s : String) : Filling :=
  { f with text := f.text ++ s }

/-- The filling after an argument has been put in. -/
def place (f : Filling) (c : Conversion) : Filling :=
  let (width, f) := f.sized c.width
  let (precision, f) := match c.precision with
    | none => (none, f)
    | some p =>
      let (n, f) := f.sized p
      (if n < 0 then none else some n.toNat, f)
  let flags := if width < 0 then '-' :: c.flags else c.flags
  let style : Style := ⟨flags, width.natAbs, precision, c.letter⟩
  let arg := f.args.headD ""
  let f := f.spend
  let limited (s : String) := match precision with
    | some n => (s.take n).toString
    | none => s
  match c.letter with
  | 's' => f.push (style.pad "" (limited arg) false)
  | 'c' => f.push (style.pad "" (if arg = "" then "\x00" else (arg.take 1).toString) false)
  | 'b' =>
    let (resolved, whole) := Escape.resolve arg
    { f.push (style.pad "" (limited resolved) false) with ended := !whole }
  | letter =>
    if "eEfFgG".contains letter then
      let r := real arg
      { f.push (style.realText r.value) with faults := r.fault.toList ++ f.faults }
    else
      let r := integer arg
      let isSigned := letter == 'd' || letter == 'i'
      let least : Int := if isSigned then Int64.minValue.toInt else -(UInt64.size : Int)
      let most : Int := if isSigned then Int64.maxValue.toInt else (UInt64.size : Int) - 1
      let value := max least (min most r.value)
      let fault := if value = r.value then r.fault
        else some s!"{arg}: Numerical result out of range"
      { f.push (style.integerText value) with faults := fault.toList ++ f.faults }

/-- The filling after one more part. -/
def add (f : Filling) (p : Part) : Filling :=
  if f.ended then f
  else match p with
    | .character c => f.push (String.singleton c)
    | .place c => f.place c
    | .invalid text isComplete =>
      let refusal := if isComplete then s!"{text}: invalid directive" else "missing format character"
      { f with ended := true, refusal := some refusal }

/-- The filling after the format has been used at most so many times. -/
def use (ps : List Part) : Nat → Filling → Filling
  | 0, f => f
  | n + 1, f =>
    let next := ps.foldl add f
    if next.ended || next.args.isEmpty || next.args.length == f.args.length then next
    else use ps n next

end Filling

/-- The format with the arguments put in. -/
def fill (format : String) (args : List String) : Filling :=
  Filling.use (parts format) (args.length + 1) { args := args }

end ServiceHarness.Text.Format
