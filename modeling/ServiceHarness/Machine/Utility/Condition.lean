import ServiceHarness.Machine.Basic
import ServiceHarness.Text.Numeral

/-!
# Conditions

A condition is a list of words such as `-f`, `path` or `1`, `-lt`, `2`, which may be joined by
`-a` and `-o`.  `Condition.holds` tells whether it holds on a machine, or what is wrong where the
words are no condition.
-/

namespace ServiceHarness.Condition

/-- The number that a word writes, with blanks around it allowed. -/
def integer? (s : String) : Option Int :=
  let isBlank (c : Char) := " \t\n\x0b\x0c\r".contains c
  let trimmed := ((s.toList.dropWhile isBlank).reverse.dropWhile isBlank).reverse
  match trimmed with
  | '-' :: ds => (Text.natural? 10 ds).map fun n => -(n : Int)
  | '+' :: ds => (Text.natural? 10 ds).map Int.ofNat
  | ds => (Text.natural? 10 ds).map Int.ofNat

/-- What stands at a path for a process. -/
def nodeFor (m : Machine) (pid : Nat) (path : String) : Option Node :=
  match path.splitOn "/" with
  | ["", "proc", n] =>
    (n.toNat?.bind m.process?).map fun _ => .directory
  | _ =>
    match m.streamAt? pid path with
    | some s => s.map fun _ => .file "" false
    | none => (m.files.lookup (m.directoryOf pid) path).toOption

/-- The words that ask for a property. -/
def unaries : List String :=
  ["-r", "-w", "-x", "-e", "-f", "-d", "-c", "-b", "-p", "-u", "-g", "-k", "-s", "-t", "-z", "-n",
    "-h", "-L", "-O", "-G", "-S"]

/-- The words that ask for a relation. -/
def binaries : List String :=
  ["=", "!=", "<", ">", "-eq", "-ne", "-ge", "-gt", "-le", "-lt", "-nt", "-ot", "-ef"]

/-- Whether a property that is asked for by a word holds of a path or a text. -/
def unary (m : Machine) (pid : Nat) (operator s : String) : Bool :=
  let node := nodeFor m pid s
  match operator with
  | "-n" => s ≠ ""
  | "-z" => s = ""
  | "-e" | "-r" | "-w" | "-O" | "-G" => node.isSome
  | "-f" => match node with
    | some (.file ..) | some (.program _) => true
    | _ => false
  | "-d" => node == some .directory
  | "-s" => match node with
    | some (.file text _) => text ≠ ""
    | some .directory | some (.program _) => true
    | _ => false
  | "-x" => match node with
    | some (.file _ x) => x
    | some .directory | some (.program _) => true
    | _ => false
  | "-c" => match node with
    | some (.device _) => true
    | _ => false
  | "-h" | "-L" => match m.files.lookupEntry (m.directoryOf pid) s with
    | .ok (.link _) => true
    | _ => false
  | _ => false

/-- The number that a word has to be. -/
def number (s : String) : Except String Int :=
  match (integer? s).filter fun n => (Int64.ofInt n).toInt == n with
  | some n => .ok n
  | none => .error s!"Illegal number: {s}"

/-- Whether a relation that is asked for by a word holds between two texts, numbers or paths. -/
def binary (m : Machine) (pid : Nat) (operator a b : String) : Except String Bool :=
  let compare (r : Int → Int → Bool) : Except String Bool := do
    let x ← number a
    let y ← number b
    return r x y
  let place (s : String) : Option String := do
    let path ← (m.files.resolve (m.directoryOf pid) s).toOption
    guard (m.files.node? path).isSome
    return path
  match operator with
  | "=" => .ok (a == b)
  | "!=" => .ok (a != b)
  | "<" => .ok (a < b)
  | ">" => .ok (b < a)
  | "-eq" => compare (· == ·)
  | "-ne" => compare (· != ·)
  | "-lt" => compare fun x y => x < y
  | "-le" => compare fun x y => x ≤ y
  | "-gt" => compare fun x y => y < x
  | "-ge" => compare fun x y => y ≤ x
  | "-nt" => .ok ((place a).isSome && (place b).isNone)
  | "-ot" => .ok ((place a).isNone && (place b).isSome)
  | _ => .ok ((place a).isSome && place a == place b)

/-! ### Reading -/

/-- What a word is where it stands. -/
inductive Role where
  /-- There is no word. -/
  | ending
  /-- It is a text, a number or a path. -/
  | operand
  /-- It asks for a property. -/
  | unary
  /-- It asks for a relation. -/
  | binary
  /-- It is a negation. -/
  | not
  /-- It joins two conditions of which both have to hold. -/
  | and
  /-- It joins two conditions of which one has to hold. -/
  | or
  /-- It opens a bracket. -/
  | opening
  /-- It closes a bracket. -/
  | closing
  deriving DecidableEq, Repr

/-- What the first of some words is. -/
def role : List String → Role
  | [] => .ending
  | s :: rest =>
    if binaries.contains s then .binary
    else if s = "-a" then .and
    else if s = "-o" then .or
    else if s = "!" then .not
    else if s = ")" then .closing
    else if s = "(" then if rest.isEmpty then .operand else .opening
    else if unaries.contains s then
      match rest with
      | [] => .operand
      | [_] => .unary
      | next :: _ => if binaries.contains next then .operand else .unary
    else .operand

/-- A computation on the words, of which the first is the present one. -/
abbrev Parse := StateT (List String) (Except String)

/-- Goes on by some words. -/
def advance (n : Nat) : Parse Unit :=
  modify (·.drop n)

/-- Whether one property, relation or text holds, where `inner` tells of what is in brackets. -/
def primary (m : Machine) (pid : Nat) (inner : Role → Parse Bool) (r : Role) : Parse Bool := do
  match r with
  | .ending => return false
  | .opening =>
    advance 1
    let next := role (← get)
    if next = .closing then return false
    let holds ← inner next
    advance 1
    if role (← get) ≠ .closing then throw "closing paren expected"
    return holds
  | .unary =>
    let operator := (← get).headD ""
    advance 1
    match (← get).head? with
    | none => throw s!"{operator}: argument expected"
    | some s => return unary m pid operator s
  | _ =>
    let words ← get
    if role (words.drop 1) = .binary then
      let operator := (words.drop 1).headD ""
      match words.drop 2 with
      | [] => throw s!"{operator}: argument expected"
      | b :: _ =>
        advance 2
        binary m pid operator (words.headD "") b
    else return words.headD "" != ""

/-- Whether a condition holds that may be negated, at most so often. -/
def negation (m : Machine) (pid : Nat) (inner : Role → Parse Bool) : Nat → Role → Parse Bool
  | 0, _ => throw "argument expected"
  | n + 1, r => do
    if r ≠ .not then primary m pid inner r
    else
      let next := role ((← get).drop 1)
      if next ≠ .ending then advance 1
      return !(← negation m pid inner n next)

/-- Whether conditions hold that are joined in one way, at most so many. -/
def joined (joint : Role) (holds : Bool → Bool → Bool) (each : Role → Parse Bool) :
    Nat → Role → Parse Bool
  | 0, _ => throw "argument expected"
  | n + 1, r => do
    let first ← each r
    if role ((← get).drop 1) = joint then
      advance 2
      return holds first (← joined joint holds each n (role (← get)))
    return first

/-- Whether a condition holds in which brackets are nested no deeper than so much. -/
def condition (m : Machine) (pid size : Nat) : Nat → Role → Parse Bool
  | 0, _ => throw "argument expected"
  | n + 1, r =>
    let one := negation m pid (condition m pid size n) size
    joined .or (· || ·) (joined .and (· && ·) one size) size r

/-- Whether a condition of no more than so many levels holds for a process. -/
def holdsWithin (m : Machine) (pid : Nat) : Nat → List String → Except String Bool
  | 0, _ => .error "argument expected"
  | _, [] => .ok false
  | n + 1, words => do
    let size := words.length + 2
    let run (r : Role) : Except String Bool := do
      let (holds, rest) ← (condition m pid size size r).run words
      match rest with
      | s :: _ :: _ =>
        throw (if s = "" then "unexpected operator" else s!"{s}: unexpected operator")
      | _ => return holds
    let isRelation := words.length = 3 && role (words.drop 1) = .binary
    if isRelation then run .operand
    else if words.length = 3 || words.length = 4 then
      if words.head? = some "(" ∧ words.getLast? = some ")" then
        holdsWithin m pid n (words.drop 1).dropLast
      else if words.head? = some "!" then return !(← holdsWithin m pid n (words.drop 1))
      else run (role words)
    else run (role words)

/-- Whether a condition holds for a process, or what is wrong with the words. -/
def holds (m : Machine) (pid : Nat) (words : List String) : Except String Bool :=
  holdsWithin m pid (words.length + 1) words

end ServiceHarness.Condition
