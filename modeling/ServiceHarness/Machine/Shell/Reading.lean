import ServiceHarness.KeyMap
import ServiceHarness.Machine.Shell.Syntax

/-!
# Reading scripts

A `Reader` is what is left of the text of a script, with the line on which it goes on and the
aliases of the shell.  `Reading` is a computation on it that may find a `SyntaxFault`; the tokens
and commands of the language are read by such computations.
-/

namespace ServiceHarness.Shell

/-- Why a text is no script. -/
structure SyntaxFault where
  /-- The line on which that shows. -/
  line : Nat
  /-- What is wrong. -/
  text : String
  deriving DecidableEq, Repr

/-- The words that belong to the grammar where a command is expected. -/
def keywords : List String :=
  ["!", "case", "do", "done", "elif", "else", "esac", "fi", "for", "if", "in", "then", "until",
    "while", "\x7b", "\x7d"]

/-- A part of a script above the characters. -/
inductive Token where
  /-- The end of the script. -/
  | ending
  /-- The end of a line. -/
  | newline
  /-- What makes a redirection, without the word for the target. -/
  | redirect (number : Nat) (kind : RedirectKind)
  /-- What makes a redirection to text on the lines below, from which tabs may be dropped. -/
  | document (number : Nat) (dropsTabs : Bool)
  /-- A word. -/
  | word (w : Word)
  /-- An operator. -/
  | operator (s : String)
  /-- A word that belongs to the grammar. -/
  | keyword (s : String)

/-- How a token is called. -/
def Token.name : Token → String
  | .ending => "end of file"
  | .newline => "newline"
  | .redirect .. => "redirection"
  | .document .. => "redirection"
  | .word _ => "word"
  | .operator s => "\"" ++ s ++ "\""
  | .keyword s => "\"" ++ s ++ "\""

/-- Whether a token is a given keyword. -/
def Token.isKeyword (k : String) : Token → Bool
  | .keyword s => s == k
  | _ => false

/-- Whether a token is a given operator. -/
def Token.isOperator (o : String) : Token → Bool
  | .operator s => s == o
  | _ => false

/-- An alias whose text is being read. -/
structure ActiveAlias where
  /-- Its name. -/
  name : String
  /-- How many characters follow its text. -/
  below : Nat
  /-- Whether its text ends in a blank, so that the word after it may be an alias, too. -/
  reaches : Bool

/-- What is left of the text of a script. -/
structure Reader where
  /-- The characters. -/
  rest : List Char
  /-- The line on which they begin. -/
  line : Nat := 1
  /-- The number of lines that have been taken out below that line. -/
  removed : Nat := 0
  /-- The aliases. -/
  aliases : KeyMap String := {}
  /-- The aliases whose texts are being read. -/
  active : List ActiveAlias := []
  /-- A token that has been read and put back. -/
  held : Option Token := none

/-- A computation that reads from a script and may find that it is none. -/
abbrev Reading := StateT Reader (Except SyntaxFault)

namespace Reading

variable {α : Type}

/-- Finds something wrong. -/
def fault (text : String) : Reading α := fun r =>
  .error ⟨r.line, text⟩

/-- Finds a token that may not stand there, and perhaps knows the one that would have to. -/
def unexpected (t : Token) (expected : Option Token := none) : Reading α :=
  match expected with
  | none => fault s!"{t.name} unexpected"
  | some e => fault s!"{t.name} unexpected (expecting {e.name})"

/-- What is left after backslashes that join lines, and the number of these. -/
def joined : List Char → List Char × Nat
  | '\\' :: '\n' :: rest => ((joined rest).1, (joined rest).2 + 1)
  | cs => (cs, 0)

/-- Goes on behind backslashes that join lines. -/
def joinLines : Reading Unit := do
  let r ← get
  let (rest, n) := joined r.rest
  if n ≠ 0 then set { r with rest, line := r.line + n + r.removed, removed := 0 }

/-- The next character as it stands. -/
def look : Reading (Option Char) := do
  return (← get).rest.head?

/-- The next character, behind backslashes that join lines. -/
def peek : Reading (Option Char) := do
  joinLines
  look

/-- Takes the next character. -/
def skip : Reading Unit :=
  modify fun r => match r.rest with
    | [] => r
    | '\n' :: rest => { r with rest, line := r.line + 1 + r.removed, removed := 0 }
    | _ :: rest => { r with rest }

/-- Takes the next character if it is a given one, and tells whether it was. -/
def accept (c : Char) : Reading Bool := do
  if (← peek) = some c then
    skip
    return true
  return false

/-- The number of steps after which the reading of one thing is given up. -/
def limit : Nat :=
  1000000

/-- What a step gives again and again until it gives nothing, at most so many times. -/
def upTo (step : Reading (Option α)) : Nat → Reading (List α)
  | 0 => pure []
  | n + 1 => do
    match ← step with
    | some a => return a :: (← upTo step n)
    | none => return []

/-- What a step gives again and again until it gives nothing. -/
def many (step : Reading (Option α)) : Reading (List α) :=
  upTo step limit

/-- The characters of a class that follow, behind backslashes that join lines. -/
def span (p : Char → Bool) : Reading String := do
  let cs ← many do
    match ← peek with
    | some c =>
      if p c then
        skip
        return some c
      return none
    | none => return none
  return String.ofList cs

/-- Reads a text on its own and goes on as before. -/
def within (text : List Char) (r : Reading α) : Reading α := do
  let before ← get
  set { before with rest := text, active := [], held := none }
  let a ← r
  set before
  return a

end Reading

end ServiceHarness.Shell
