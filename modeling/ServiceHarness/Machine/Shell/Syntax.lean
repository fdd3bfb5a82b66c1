/-!
# The shell language

A `Script` is a command, simple or made of others.  Its words are lists of `Part`s: texts, the
values of parameters, the output of commands and the values of expressions, each quoted or not.
What is quoted is neither split into fields nor read as a pattern.
-/

namespace ServiceHarness.Shell

/-- How a redirection changes a stream. -/
inductive RedirectKind where
  /-- The stream reads a file. -/
  | input
  /-- The stream writes a file from its beginning. -/
  | output
  /-- The stream writes a file from its beginning, even one that is to be protected. -/
  | force
  /-- The stream writes a file at its end. -/
  | append
  /-- The stream reads and writes a file. -/
  | both
  /-- The stream becomes a copy of another one. -/
  | duplicate
  /-- The stream reads the text itself. -/
  | text
  deriving DecidableEq, Repr

/-- What is done where a parameter has no value, or where it has one. -/
inductive Fallback where
  /-- A word takes its place. -/
  | default
  /-- The parameter gets the value of a word. -/
  | assign
  /-- The shell ends. -/
  | fail
  /-- A word takes its place if it has a value. -/
  | alternative
  deriving DecidableEq, Repr

mutual

/-- A part of a word. -/
inductive Part where
  /-- A text. -/
  | text (s : String) (quoted : Bool)
  /-- The value of a parameter. -/
  | parameter (name : String) (use : Use) (quoted : Bool)
  /-- The output of a command. -/
  | output (command : Script) (quoted : Bool)
  /-- The value of an expression. -/
  | value (expression : List Part) (quoted : Bool)

/-- What is made of the value of a parameter. -/
inductive Use where
  /-- The value itself. -/
  | plain
  /-- The number of its characters. -/
  | length
  /-- Something else if it has no value, or an empty one where that counts as none. -/
  | fallback (kind : Fallback) (orEmpty : Bool) (word : List Part)
  /-- The value without the shortest or longest end, or beginning, that fits a pattern. -/
  | trimmed (atEnd longest : Bool) (pattern : List Part)
  /-- Nothing that there is. -/
  | unknown

/-- A command. -/
inductive Script where
  /-- Assignments, the words of a program with its arguments, and redirected streams. -/
  | simple (line : Nat) (assignments : List (String × List Part)) (words : List (List Part))
    (redirects : List (Nat × RedirectKind × List Part))
  /-- Commands one after the other. -/
  | sequence (commands : List Script)
  /-- Commands of which each reads what the one before it puts out. -/
  | pipeline (commands : List Script)
  /-- A command that succeeds if another one fails. -/
  | negated (command : Script)
  /-- The second command after the first, if that succeeds. -/
  | both (first second : Script)
  /-- The second command after the first, if that fails. -/
  | either (first second : Script)
  /-- A command that is not waited for. -/
  | background (command : Script)
  /-- A command in a process of its own. -/
  | subshell (command : Script)
  /-- The first command whose condition succeeds. -/
  | conditional (branches : List (Script × Script)) (otherwise : Option Script)
  /-- A command again and again while, or until, a condition succeeds. -/
  | loop (until_ : Bool) (condition body : Script)
  /-- A command once for each word; for each parameter if there are no words. -/
  | each (line : Nat) (name : String) (words : Option (List (List Part))) (body : Script)
  /-- The first command of whose patterns one fits a word. -/
  | choice (line : Nat) (subject : List Part) (branches : List (List (List Part) × Script))
  /-- The definition of a function. -/
  | define (name : String) (body : Script)
  /-- A command with redirected streams: the number, how, and the word for the target. -/
  | redirected (line : Nat) (command : Script)
    (redirects : List (Nat × RedirectKind × List Part))

end

/-- A word. -/
abbrev Word := List Part

/-- A redirection: the number of the stream, what becomes of it, and the word for the target. -/
abbrev Redirect := Nat × RedirectKind × Word

instance : Inhabited Script := ⟨.sequence []⟩

/-- The text of a word in which nothing is quoted and nothing stands for something else. -/
def Word.literal? : Word → Option String
  | [] => some ""
  | .text s false :: rest => (Word.literal? rest).map (s ++ ·)
  | _ => none

/-- The text of a word if nothing is to be done with it. -/
def Word.plainText (w : Word) : String :=
  String.join (w.map fun
    | .text s _ => s
    | _ => "")

/-- Whether some of the text of a word is quoted. -/
def Word.isQuoted (w : Word) : Bool :=
  w.any fun
    | .text _ quoted => quoted
    | .parameter _ _ quoted => quoted
    | .output _ quoted => quoted
    | .value _ quoted => quoted

/-- Whether a character can begin a name. -/
def beginsName (c : Char) : Bool :=
  c.isAlpha || c == '_'

/-- Whether a character can stand in a name. -/
def isInName (c : Char) : Bool :=
  c.isAlphanum || c == '_'

/-- Whether a text can be the name of a variable or a function. -/
def isName (s : String) : Bool :=
  match s.toList with
  | c :: rest => beginsName c && rest.all isInName
  | [] => false

/-- The builtins whose failure ends a script, and that keep the assignments before them. -/
def specialBuiltins : List String :=
  [".", ":", "break", "continue", "eval", "exec", "exit", "export", "local", "readonly", "return",
    "set", "shift", "times", "trap", "unset"]

end ServiceHarness.Shell
