import ServiceHarness.Text.Numeral

/-!
# Arithmetic

An `Expression` is a formula on signed 64-bit words, in which names stand for the values of
variables.  `Expression.ofText` reads one, and `Expression.value` evaluates it: what does not
count for the value is not evaluated, and variables may get new values on the way.
-/

namespace ServiceHarness.Shell

/-- Why an expression has no value. -/
inductive ArithmeticFault where
  /-- Something is missing where it should stand. -/
  | expecting (what : String)
  /-- A number is divided by zero. -/
  | divisionByZero
  /-- The value of a variable is no number. -/
  | illegalNumber (s : String)
  deriving DecidableEq, Repr

/-- How a fault is told of an expression. -/
def ArithmeticFault.message (expression : String) : ArithmeticFault → String
  | .expecting what => s!"arithmetic expression: expecting {what}: \"" ++ expression ++ "\""
  | .divisionByZero => "arithmetic expression: division by zero: \"" ++ expression ++ "\""
  | .illegalNumber s => "Illegal number: " ++ s

/-- A formula. -/
inductive Expression where
  /-- A number. -/
  | number (n : Int)
  /-- The value of a variable. -/
  | variable (name : String)
  /-- An operand with a sign before it. -/
  | signed (sign : String) (operand : Expression)
  /-- An operator between two operands. -/
  | operation (operator : String) (first second : Expression)
  /-- Whether two operands are not zero; the second does not count after a zero. -/
  | both (first second : Expression)
  /-- Whether one of two operands is not zero; the second counts after a zero only. -/
  | either (first second : Expression)
  /-- The first of two operands unless a condition is zero. -/
  | choice (condition first second : Expression)
  /-- The new value of a variable, for which the old one may be an operand. -/
  | assign (name : String) (operator : Option String) (operand : Expression)
  deriving Repr

namespace Expression

/-! ### Numbers -/

/-- The word that a number becomes. -/
def wrap (n : Int) : Int :=
  (Int64.ofInt n).toInt

/-- The number that the text begins with, and what follows it: octal after a zero and hexadecimal
after `0x`. -/
def leading (cs : List Char) : Nat × List Char :=
  let of (base : Nat) (cs : List Char) : Nat × List Char :=
    let digits := cs.takeWhile fun c => (Text.digitValue? base c).isSome
    ((Text.natural? base digits).getD 0, cs.drop digits.length)
  match cs with
  | '0' :: x :: d :: rest =>
    if (x == 'x' || x == 'X') && (Text.digitValue? 16 d).isSome then of 16 (d :: rest)
    else of 8 cs
  | '0' :: _ => of 8 cs
  | _ => of 10 cs

/-- The greatest word. -/
def greatest : Int :=
  Int64.maxValue.toInt

/-- Whether a character is a blank. -/
def isBlank (c : Char) : Bool :=
  " \t\n\x0b\x0c\r".contains c

/-- The number that the value of a variable writes; zero for none. -/
def ofValue (s : String) : Except ArithmeticFault Int :=
  let cs := s.toList.dropWhile isBlank
  let (negative, cs) := match cs with
    | '-' :: cs => (true, cs)
    | '+' :: cs => (false, cs)
    | cs => (false, cs)
  let (n, rest) := leading cs
  let n : Int := if negative then -n else n
  if rest.all isBlank && !(cs.isEmpty && s.toList.any (!isBlank ·)) && wrap n = n then .ok n
  else .error (.illegalNumber s)

/-! ### Reading -/

/-- A part of the text of an expression. -/
inductive Lexeme where
  /-- A number. -/
  | number (n : Int)
  /-- A name. -/
  | name (s : String)
  /-- An operator or a bracket. -/
  | operator (s : String)
  /-- Something else. -/
  | other
  deriving DecidableEq, Repr

/-- The operators and brackets, longer ones before those with which they begin. -/
def operators : List String :=
  ["<<=", ">>=", "||", "&&", "==", "!=", "<=", ">=", "<<", ">>", "+=", "-=", "*=", "/=", "%=",
    "&=", "|=", "^=", "+", "-", "*", "/", "%", "<", ">", "&", "|", "^", "=", "?", ":", "!", "~",
    "(", ")"]

/-- The parts of a text, at most so many. -/
def lexemes : Nat → List Char → List Lexeme
  | 0, _ => []
  | n + 1, cs =>
    match cs.dropWhile isBlank with
    | [] => []
    | c :: rest =>
      if c.isDigit then
        let (value, rest) := leading (c :: rest)
        .number (min (value : Int) greatest) :: lexemes n rest
      else if c.isAlpha || c == '_' then
        let inName (c : Char) := c.isAlphanum || c == '_'
        .name (String.ofList ((c :: rest).takeWhile inName)) :: lexemes n (rest.dropWhile inName)
      else match operators.find? fun o => o.toList.isPrefixOf (c :: rest) with
        | some o => .operator o :: lexemes n ((c :: rest).drop o.length)
        | none => [.other]

/-- What takes an expression off the front of the parts of a text. -/
abbrev Parse := StateT (List Lexeme) (Except ArithmeticFault)

/-- Takes an operator if it comes next and is one of some; tells which it was. -/
def accept (os : List String) : Parse (Option String) := do
  match ← get with
  | .operator o :: rest =>
    if os.contains o then
      set rest
      return some o
    return none
  | _ => return none

/-- The operators between two operands of which both count, from those that bind least to those
that bind most. -/
def levels : List (List String) :=
  [["|"], ["^"], ["&"], ["==", "!="], ["<", "<=", ">", ">="], ["<<", ">>"], ["+", "-"],
    ["*", "/", "%"]]

/-- The operators after which an equals sign makes an assignment. -/
def assigning : List (String × Option String) :=
  ("=", none) ::
    ["|", "^", "&", "<<", ">>", "+", "-", "*", "/", "%"].map fun o => (o ++ "=", some o)

/-- An operand with its signs, where brackets hold what `inner` takes. -/
def operand (inner : Parse Expression) : Nat → Parse Expression
  | 0 => throw (.expecting "primary")
  | n + 1 => do
    match ← get with
    | .number k :: rest =>
      set rest
      return .number k
    | .name s :: rest =>
      set rest
      return .variable s
    | .operator "(" :: rest =>
      set rest
      let e ← inner
      if (← accept [")"]).isNone then throw (.expecting "')'")
      return e
    | .operator o :: rest =>
      if !(["+", "-", "!", "~"].contains o) then throw (.expecting "primary")
      set rest
      return .signed o (← operand inner n)
    | _ => throw (.expecting "primary")

/-- The operand and the operations that follow it, at most so many. -/
def chain (os : List String) (higher : Parse Expression) : Nat → Expression → Parse Expression
  | 0, e => pure e
  | n + 1, e => do
    match ← accept os with
    | some o => chain os higher n (.operation o e (← higher))
    | none => return e

/-- An expression with the operators of some levels. -/
def layered (size : Nat) (operand : Parse Expression) : List (List String) → Parse Expression
  | [] => operand
  | os :: higher => do
    let next := layered size operand higher
    chain os next size (← next)

/-- Expressions with an operator between each two, of which the second does not always count. -/
def lazily (o : String) (make : Expression → Expression → Expression)
    (higher : Parse Expression) : Nat → Parse Expression
  | 0 => higher
  | n + 1 => do
    let first ← higher
    if (← accept [o]).isSome then return make first (← lazily o make higher n)
    return first

/-- An expression that may choose between two others. -/
def conditional (size : Nat) (inner : Parse Expression) : Nat → Parse Expression
  | 0 => throw (.expecting "primary")
  | n + 1 => do
    let binary := layered size (operand inner size) levels
    let condition ← lazily "||" either (lazily "&&" both binary size) size
    if (← accept ["?"]).isNone then return condition
    let first ← inner
    if (← accept [":"]).isNone then throw (.expecting "':'")
    return .choice condition first (← conditional size inner n)

/-- An expression in a text of so many parts, in which others are nested no deeper than so much. -/
def nested (size : Nat) : Nat → Parse Expression
  | 0 => throw (.expecting "primary")
  | n + 1 => do
    match ← get with
    | .name s :: .operator o :: rest =>
      match assigning.lookup o with
      | some operator =>
        set rest
        return .assign s operator (← nested size n)
      | none => conditional size (nested size n) size
    | _ => conditional size (nested size n) size

/-- The expression that a text is. -/
def ofText (s : String) : Except ArithmeticFault Expression := do
  let parts := lexemes s.length s.toList
  let (e, rest) ← (nested (parts.length + 1) (parts.length + 1)).run parts
  if rest.isEmpty then return e else throw (.expecting "EOF")

/-! ### Evaluation -/

/-- The number of a truth value. -/
def truth (b : Bool) : Int :=
  if b then 1 else 0

/-- What an operator makes of two numbers. -/
def apply (operator : String) (a b : Int) : Except ArithmeticFault Int :=
  match operator with
  | "|" => .ok (Int64.ofInt a ||| Int64.ofInt b).toInt
  | "^" => .ok (Int64.ofInt a ^^^ Int64.ofInt b).toInt
  | "&" => .ok (Int64.ofInt a &&& Int64.ofInt b).toInt
  | "==" => .ok (truth (a == b))
  | "!=" => .ok (truth (a != b))
  | "<" => .ok (truth (a < b))
  | "<=" => .ok (truth (a ≤ b))
  | ">" => .ok (truth (b < a))
  | ">=" => .ok (truth (b ≤ a))
  | "<<" => .ok (Int64.ofInt a <<< Int64.ofInt b).toInt
  | ">>" => .ok (Int64.ofInt a >>> Int64.ofInt b).toInt
  | "+" => .ok (wrap (a + b))
  | "-" => .ok (wrap (a - b))
  | "*" => .ok (wrap (a * b))
  | "/" => if b = 0 then .error .divisionByZero else .ok (wrap (a.tdiv b))
  | _ => if b = 0 then .error .divisionByZero else .ok (wrap (a.tmod b))

/-- What a sign makes of a number. -/
def sign (s : String) (n : Int) : Int :=
  match s with
  | "-" => wrap (-n)
  | "!" => truth (n = 0)
  | "~" => wrap (-n - 1)
  | _ => n

/-- The variables that have got new values, the last one first. -/
abbrev Evaluate := StateT (List (String × Int)) (Except ArithmeticFault)

/-- The value of a variable, where the shell has values for variables. -/
def valueOf (values : String → String) (name : String) : Evaluate Int := do
  match (← get).lookup name with
  | some n => return n
  | none => ofValue (values name)

/-- The value of an expression, where the shell has values for variables. -/
def value (values : String → String) : Expression → Evaluate Int
  | .number n => pure n
  | .variable name => valueOf values name
  | .signed s e => sign s <$> value values e
  | .operation o a b => do
    let a ← value values a
    let b ← value values b
    apply o a b
  | .both a b => do
    if (← value values a) = 0 then return 0
    return truth ((← value values b) ≠ 0)
  | .either a b => do
    if (← value values a) ≠ 0 then return 1
    return truth ((← value values b) ≠ 0)
  | .choice c a b => do
    if (← value values c) ≠ 0 then value values a else value values b
  | .assign name operator e => do
    let n ← value values e
    let n ← match operator with
      | some o => do
        let old ← valueOf values name
        apply o old n
      | none => pure n
    modify fun assigned => (name, n) :: assigned
    return n

/-- The value of the expression that a text is, and the variables that get new values, in
order. -/
def evaluate (values : String → String) (s : String) :
    Except ArithmeticFault (Int × List (String × Int)) := do
  let e ← ofText s
  let (n, assigned) ← (e.value values).run []
  return (n, assigned.reverse)

end Expression

end ServiceHarness.Shell
