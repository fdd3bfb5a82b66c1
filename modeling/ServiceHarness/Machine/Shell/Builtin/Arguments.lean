import ServiceHarness.Machine.Shell.Expansion

/-!
# Arguments of builtins

`options?` takes the options off the front of the arguments of a builtin, and `number` reads an
argument that has to be a number.
-/

namespace ServiceHarness.Shell

/-- The letters of one argument that are options, with the value of each that has one, and the
arguments after it.  A colon after a letter that is known says that it has a value. -/
def optionLetters? (known : String) :
    List Char → List String → Except String (List (Char × String) × List String)
  | [], rest => .ok ([], rest)
  | c :: cs, rest =>
    match known.toList.dropWhile (· != c) with
    | _ :: ':' :: _ =>
      match cs, rest with
      | [], value :: rest => .ok ([(c, value)], rest)
      | [], [] => .error s!"No arg for -{c} option"
      | cs, rest => .ok ([(c, String.ofList cs)], rest)
    | _ :: _ => do
      let (more, rest) ← optionLetters? known cs rest
      return ((c, "") :: more, rest)
    | [] => .error s!"Illegal option -{c}"

/-- The options at the front of arguments of which there are no more than so many, and the others
after them. -/
def optionsUpTo (known : String) :
    Nat → List String → Except String (List (Char × String) × List String)
  | n + 1, arg :: rest =>
    match arg.toList with
    | ['-', '-'] => .ok ([], rest)
    | '-' :: c :: cs => do
      let (first, rest) ← optionLetters? known (c :: cs) rest
      let (more, rest) ← optionsUpTo known n rest
      return (first ++ more, rest)
    | _ => .ok ([], arg :: rest)
  | _, args => .ok ([], args)

/-- The options at the front of arguments, and the others after them. -/
def options? (known : String) (args : List String) :
    Except String (List (Char × String) × List String) :=
  optionsUpTo known args.length args

/-- The options at the front of arguments, and the others after them, or a complaint. -/
def takeOptions (e : Evaluator) (known : String) (args : List String) :
    ShellM (List (Char × String) × List String) := do
  match options? known args with
  | .ok r => return r
  | .error text => e.refuse text

/-- The number that an argument has to be. -/
def number (e : Evaluator) (arg : String) : ShellM Nat := do
  match (Text.natural? 10 arg.toList).filter (· < Int32.maxValue.toInt.toNat + 1) with
  | some n => return n
  | none => e.refuse s!"Illegal number: {arg}"

/-- The number that the first argument has to be, or the default if there is no argument. -/
def firstNumber (e : Evaluator) (default : Nat) : List String → ShellM Nat
  | [] => return default
  | arg :: _ => number e arg

/-- The name that an argument has to be. -/
def requireName (e : Evaluator) (name : String) : ShellM Unit := do
  if !isName name then e.refuse s!"{name}: bad variable name"

/-- A variable and its value where an argument gives one. -/
def declared (arg : String) : String × Option String :=
  match arg.splitOn "=" with
  | name :: first :: rest => (name, some ("=".intercalate (first :: rest)))
  | _ => (arg, none)

/-- A text in single quotes, with quotes of its own between double ones. -/
def inQuotes (s : String) : String :=
  let rec go : Nat → List Char → List Char
    | 0, _ => []
    | n + 1, cs =>
      let plain := cs.takeWhile (· != '\'')
      let rest := cs.drop plain.length
      let quotes := rest.takeWhile (· == '\'')
      let after := rest.drop quotes.length
      let shown := '\'' :: plain ++ ['\'']
      if quotes.isEmpty then shown
      else
        let both := shown ++ '"' :: quotes ++ ['"']
        if after.isEmpty then both else both ++ go n after
  String.ofList (go (s.length + 1) s.toList)

end ServiceHarness.Shell
