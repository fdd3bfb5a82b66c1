import ServiceHarness.Machine.Utility.Options
import ServiceHarness.Machine.Utility.Condition
import ServiceHarness.Text.Regex

/-!
# Expressions in arguments

`expr` works out an expression of which every argument is a part.  Values are texts, some of which
are numbers.
-/

namespace ServiceHarness.Utility

namespace Term

/-- What is wrong with an expression. -/
inductive Fault where
  /-- An operand is missing behind an argument. -/
  | missing (after : String)
  /-- There is an argument too many. -/
  | unexpected (arg : String)
  /-- A bracket is missing behind an argument. -/
  | unclosed (after : String)
  /-- Something else stands where a bracket is missing. -/
  | closedBy (arg : String)
  /-- There is a bracket that closes nothing. -/
  | strayClose
  /-- A number is needed. -/
  | notNumber
  /-- Something is divided by zero. -/
  | zeroDivisor
  /-- A pattern is none. -/
  | pattern (fault : Text.Regex.Fault)
  deriving DecidableEq, Repr

/-- What is told of a fault. -/
def Fault.text : Fault → String
  | missing after =>
    let shown := Name.quoted after
    s!"syntax error: missing argument after {shown}"
  | unexpected arg =>
    let shown := Name.quoted arg
    s!"syntax error: unexpected argument {shown}"
  | unclosed after =>
    let shown := Name.quoted after
    s!"syntax error: expecting ')' after {shown}"
  | closedBy arg =>
    let shown := Name.quoted arg
    s!"syntax error: expecting ')' instead of {shown}"
  | strayClose => "syntax error: unexpected ')'"
  | notNumber => "non-integer argument"
  | zeroDivisor => "division by zero"
  | pattern fault => fault.text

/-- The arguments that have been read and those that have not. -/
structure Reading where
  /-- The last argument that has been read. -/
  last : String := ""
  /-- The others. -/
  rest : List String

/-- A computation that reads arguments. -/
abbrev Reader := StateT Reading (Except Fault)

/-- The next argument, which has to be there. -/
def next : Reader String := do
  let s ← get
  match s.rest with
  | arg :: rest =>
    set ({ last := arg, rest } : Reading)
    return arg
  | [] => throw (.missing s.last)

/-- The next argument, if it is one of these. -/
def oneOf? (words : List String) : Reader (Option String) := do
  match (← get).rest with
  | arg :: _ => if words.contains arg then some <$> next else return none
  | [] => return none

/-- The number that a value is, if it is one. -/
def integer? (v : String) : Option Int :=
  match v.toList with
  | '-' :: ds => (Text.natural? 10 ds).map fun n => -(n : Int)
  | ds => (Text.natural? 10 ds).map Int.ofNat

/-- Whether a value counts as false. -/
def isNull (v : String) : Bool :=
  match v.toList with
  | [] => true
  | '-' :: ds => !ds.isEmpty && ds.all (· == '0')
  | ds => ds.all (· == '0')

/-- The value of a comparison. -/
def compare (operator a b : String) : String :=
  let order := match integer? a, integer? b with
    | some x, some y => Ord.compare x y
    | _, _ => Ord.compare a b
  let holds : Bool := match operator with
    | "<" => order == .lt
    | "<=" => order != .gt
    | "=" | "==" => order == .eq
    | "!=" => order != .eq
    | ">=" => order != .lt
    | _ => order == .gt
  if holds then "1" else "0"

/-- The value of a computation. -/
def compute (operator a b : String) : Except Fault String := do
  let some x := integer? a | throw .notNumber
  let some y := integer? b | throw .notNumber
  if y = 0 && (operator = "/" || operator = "%") then throw .zeroDivisor
  return toString (match operator with
    | "+" => x + y
    | "-" => x - y
    | "*" => x * y
    | "/" => Int.tdiv x y
    | _ => Int.tmod x y)

/-- What a pattern takes of the beginning of a text: the first piece that it remembers, or the number
of characters. -/
def matched (text pattern : String) : Except Fault String := do
  let r ← (Text.Regex.parse false pattern.toList true).mapError .pattern
  let hasGroups := r.groupCount > 0
  match r.fit? false (fun _ _ => true) ⟨[], text.toList, []⟩ with
  | none => return if hasGroups then "" else "0"
  | some p =>
    return if hasGroups then String.ofList ((p.groups.lookup 1).getD [])
      else toString p.before.length

/-- The part of a text from a place on that has so many characters. -/
def part (text first length : String) : String :=
  match integer? first, integer? length with
  | some i, some n =>
    if i ≤ 0 || n ≤ 0 then ""
    else String.ofList ((text.toList.drop (i.toNat - 1)).take n.toNat)
  | _, _ => ""

/-- The place of the first character of a text that is among others. -/
def place (text among : String) : String :=
  toString ((text.toList.findIdx? fun c => among.toList.contains c).elim 0 (· + 1))

mutual

/-- A value of a level, which is worked out only if `counts`; the levels are alternatives,
conjunctions, comparisons, sums, products, matches and the rest.  So many are nested at most. -/
def value (counts : Bool) : Nat → Nat → Reader String
  | 0, _ => do throw (.missing (← get).last)
  | n + 1, 0 => do alternatives counts n (← value counts n 1)
  | n + 1, 1 => do conjunctions counts n (← value counts n 2)
  | n + 1, 2 => do
    pairs counts n 3 ["<", "<=", "=", "==", "!=", ">=", ">"] (fun o a b => .ok (compare o a b))
      (← value counts n 3)
  | n + 1, 3 => do pairs counts n 4 ["+", "-"] compute (← value counts n 4)
  | n + 1, 4 => do pairs counts n 5 ["*", "/", "%"] compute (← value counts n 5)
  | n + 1, 5 => do pairs counts n 6 [":"] (fun _ a b => matched a b) (← value counts n 6)
  | n + 1, _ => do
    match ← oneOf? ["+", "length", "match", "index", "substr", "(", ")"] with
    | some "+" => next
    | some "length" => return toString (← value counts n 6).length
    | some "match" =>
      let a ← value counts n 6
      let b ← value counts n 6
      if counts then (matched a b : Except Fault String) else return a
    | some "index" =>
      let a ← value counts n 6
      return place a (← value counts n 6)
    | some "substr" =>
      let a ← value counts n 6
      let i ← value counts n 6
      return part a i (← value counts n 6)
    | some "(" =>
      let v ← value counts n 0
      let s ← get
      match s.rest with
      | [] => throw (.unclosed s.last)
      | ")" :: _ =>
        let _ ← next
        return v
      | arg :: _ => throw (.closedBy arg)
    | some _ => throw .strayClose
    | none => next

/-- The first of some alternatives that counts as true, after one of them. -/
def alternatives (counts : Bool) : Nat → String → Reader String
  | 0, v => return v
  | n + 1, v => do
    match ← oneOf? ["|"] with
    | none => return v
    | some _ =>
      let other ← value (counts && isNull v) n 1
      let v := if !isNull v then v else if isNull other then "0" else other
      alternatives counts n v

/-- The first of some values if all count as true, after one of them. -/
def conjunctions (counts : Bool) : Nat → String → Reader String
  | 0, v => return v
  | n + 1, v => do
    match ← oneOf? ["&"] with
    | none => return v
    | some _ =>
      let other ← value (counts && !isNull v) n 2
      conjunctions counts n (if isNull v || isNull other then "0" else v)

/-- The value of operators of one level, taken from the left, after the first operand. -/
def pairs (counts : Bool) : Nat → Nat → List String →
    (String → String → String → Except Fault String) → String → Reader String
  | 0, _, _, _, v => return v
  | n + 1, level, operators, f, v => do
    match ← oneOf? operators with
    | none => return v
    | some operator =>
      let other ← value counts n level
      let v ← if counts then (f operator v other : Except Fault String) else pure v
      pairs counts n level operators f v

end

/-- The value of an expression. -/
def evaluate (args : List String) : Except Fault String := do
  let (v, s) ← (value true (8 * args.length + 16) 0).run { rest := args }
  match s.rest with
  | [] => return v
  | arg :: _ => throw (.unexpected arg)

end Term

/-- Works out an expression. -/
def expr : Utility := Task.utility fun args => do
  let args := if args.head? = some "--" then args.drop 1 else args
  if args = ["--help"] || args = ["--version"] then
    let name := (← read).name
    Task.say s!"Usage: {name} EXPRESSION\n"
    Task.quit 0
  if args.isEmpty then Task.refuse "missing operand" 2
  match Term.evaluate args with
  | .error fault => Task.fail fault.text 2
  | .ok v =>
    Task.say (v ++ "\n")
    if Term.isNull v then Task.mark 1

end ServiceHarness.Utility
