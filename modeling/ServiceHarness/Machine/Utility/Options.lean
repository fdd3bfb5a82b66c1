import ServiceHarness.Machine.Utility.Task

/-!
# Options of utilities

A utility knows some `Switch`es, each by a word and most by a letter too.  `Options.read` takes
the switches out of the arguments: letters behind a dash, words behind two dashes, which may be cut
short where that is clear, and values beside them or after an equals sign.
-/

namespace ServiceHarness

/-- Whether a switch has a value. -/
inductive Arity where
  /-- It has none. -/
  | none
  /-- It has one. -/
  | required
  /-- It may have one. -/
  | optional
  deriving DecidableEq, Repr

/-- An option that a utility knows. -/
structure Switch where
  /-- Its letter, if it has one. -/
  letter : Option Char
  /-- Its word. -/
  word : String
  /-- Whether it has a value. -/
  arity : Arity := .none
  deriving DecidableEq, Repr

namespace Switch

/-- A switch without a value. -/
def plain (letter : Char) (word : String) : Switch where
  letter := letter
  word := word

/-- A switch with a value. -/
def valued (letter : Char) (word : String) : Switch where
  letter := letter
  word := word
  arity := .required

/-- A switch without a letter. -/
def long (word : String) (arity : Arity := .none) : Switch where
  letter := none
  word := word
  arity := arity

/-- The switches that every utility knows. -/
def common : List Switch :=
  [.long "help", .long "version"]

end Switch

/-- What is wrong with an option. -/
inductive OptionFault where
  /-- There is no such letter. -/
  | unknownLetter (letter : Char)
  /-- There is no such word. -/
  | unknownWord (arg : String)
  /-- The word can be completed in more than one way. -/
  | ambiguous (arg : String) (candidates : List String)
  /-- The value of a letter is missing. -/
  | missingLetterValue (letter : Char)
  /-- The value of a word is missing. -/
  | missingWordValue (word : String)
  /-- The word has no value. -/
  | superfluousValue (word : String)
  deriving DecidableEq, Repr

/-- What is told of a fault. -/
def OptionFault.text : OptionFault → String
  | unknownLetter c => s!"invalid option -- '{c}'"
  | unknownWord w => s!"unrecognized option '{w}'"
  | ambiguous w ws =>
    let shown := " ".intercalate (ws.map fun w => s!"'--{w}'")
    s!"option '{w}' is ambiguous; possibilities: {shown}"
  | missingLetterValue c => s!"option requires an argument -- '{c}'"
  | missingWordValue w => s!"option '--{w}' requires an argument"
  | superfluousValue w => s!"option '--{w}' doesn't allow an argument"

/-- The options among some arguments. -/
structure Options where
  /-- The words of the switches in their order, with their values. -/
  given : List (String × Option String) := []
  /-- The other arguments. -/
  operands : List String := []
  deriving DecidableEq, Repr

namespace Options

/-- Whether a switch is among the options. -/
def has (o : Options) (word : String) : Bool :=
  o.given.any (·.1 == word)

/-- The values of a switch. -/
def values (o : Options) (word : String) : List String :=
  o.given.filterMap fun g => if g.1 = word then g.2 else none

/-- The last value of a switch. -/
def value? (o : Options) (word : String) : Option String :=
  (o.values word).getLast?

/-- The last of some switches that is among the options. -/
def last? (o : Options) (words : List String) : Option String :=
  ((o.given.map (·.1)).filter words.contains).getLast?

/-- The options with one more in front. -/
def push (o : Options) (word : String) (value : Option String) : Options :=
  { o with given := (word, value) :: o.given }

/-- The switches of the letters of an argument, and the arguments after it that are no values of
them. -/
def readLetters (known : List Switch) :
    List Char → List String → Except OptionFault (List (String × Option String) × List String)
  | [], rest => .ok ([], rest)
  | c :: cs, rest =>
    match known.find? (·.letter == some c) with
    | none => .error (.unknownLetter c)
    | some s =>
      match s.arity with
      | .none => do
        let (given, rest) ← readLetters known cs rest
        return ((s.word, none) :: given, rest)
      | .optional => .ok ([(s.word, if cs.isEmpty then none else some (String.ofList cs))], rest)
      | .required =>
        if !cs.isEmpty then .ok ([(s.word, some (String.ofList cs))], rest)
        else match rest with
          | value :: rest => .ok ([(s.word, some value)], rest)
          | [] => .error (.missingLetterValue c)

/-- The switch of a word that may be cut short. -/
def ofWord? (known : List Switch) (arg word : String) : Except OptionFault Switch :=
  match known.find? (·.word == word) with
  | some s => .ok s
  | none =>
    match known.filter fun s => s.word.startsWith word && s.word.length ≠ 1 with
    | [] => .error (.unknownWord arg)
    | [s] => .ok s
    | ss => .error (.ambiguous arg (ss.map Switch.word))

/-- The switch of an argument behind two dashes, and the arguments after it that are no value of
it. -/
def readWord (known : List Switch) (arg : String) (rest : List String) :
    Except OptionFault ((String × Option String) × List String) := do
  let cs := arg.toList
  let word := cs.takeWhile (· != '=')
  let value := if word.length < cs.length then some (String.ofList (cs.drop (word.length + 1)))
    else none
  let s ← ofWord? known ("--" ++ arg) (String.ofList word)
  match s.arity, value, rest with
  | .none, some _, _ => throw (.superfluousValue s.word)
  | .required, none, value :: rest => return ((s.word, some value), rest)
  | .required, none, [] => throw (.missingWordValue s.word)
  | _, value, rest => return ((s.word, value), rest)

/-- The options among so many arguments at most.  Where they are read in order, the first that is no
option ends them. -/
def readFor (known : List Switch) (inOrder : Bool) :
    Nat → List String → Except OptionFault Options
  | n + 1, arg :: rest =>
    match arg.toList with
    | ['-', '-'] => .ok { operands := rest }
    | '-' :: '-' :: cs => do
      let (given, rest) ← readWord known (String.ofList cs) rest
      let o ← readFor known inOrder n rest
      return o.push given.1 given.2
    | '-' :: c :: cs => do
      let (given, rest) ← readLetters known (c :: cs) rest
      let o ← readFor known inOrder n rest
      return { o with given := given ++ o.given }
    | _ =>
      if inOrder then .ok { operands := arg :: rest }
      else do
        let o ← readFor known inOrder n rest
        return { o with operands := arg :: o.operands }
  | _, args => .ok { operands := args }

/-- The options among some arguments. -/
def read (known : List Switch) (args : List String) (inOrder : Bool := false) :
    Except OptionFault Options :=
  readFor (known ++ Switch.common) inOrder args.length args

end Options

/-- The options among the arguments of a task, which ends with a code if they are not right. -/
def Task.options (known : List Switch) (args : List String) (code : Nat := 1)
    (inOrder : Bool := false) : Task Options := do
  match Options.read known args inOrder with
  | .error fault => refuse fault.text code
  | .ok o =>
    let name := (← MonadReader.read : Occupation).name
    if o.has "help" then
      say s!"Usage: {name} [OPTION]...\n"
      quit 0
    if o.has "version" then
      say s!"{name} 9.1\n"
      quit 0
    return o

/-- The operands, or the input if there are none. -/
def Options.inputs (o : Options) : List String :=
  if o.operands.isEmpty then ["-"] else o.operands

/-- The operands, of which there has to be one at least. -/
def Task.someOperands (o : Options) (code : Nat := 1) : Task (List String) := do
  if o.operands.isEmpty then refuse "missing operand" code
  return o.operands

end ServiceHarness
