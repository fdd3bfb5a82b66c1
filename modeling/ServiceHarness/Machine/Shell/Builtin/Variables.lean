import ServiceHarness.Machine.Shell.Builtin.Arguments

/-!
# Builtins on variables

The builtins that declare variables and aliases, set the parameters and options, and read lines
and options into variables.
-/

namespace ServiceHarness.Shell

/-! ### Declarations -/

/-- The lines that declare variables again. -/
def declarations (word : String) (isMeant : Variable → Bool) (s : Shell) : String :=
  String.join (s.bindings.entries.filterMap fun (name, v) =>
    if !isMeant v then none
    else
      let value := (v.value.map fun t => "=" ++ inQuotes t).getD ""
      some s!"{word}{name}{value}\n")

/-- Declares variables, to each of which something is done after it may have got a value, or tells
those that have been declared. -/
def declare (e : Evaluator) (word : String) (isMeant : Variable → Bool)
    (f : Variable → Variable) (args : List String) : ShellM Unit := do
  let (letters, names) ← takeOptions e "p" args
  if !letters.isEmpty || names.isEmpty then
    say (declarations (word ++ " ") isMeant (← Work.get))
  else
    for arg in names do
      let (name, value) := declared arg
      requireName e name
      match value with
      | some v => assignTo e name v
      | none => pure ()
      Work.modify fun s => s.changeVariable name f
  setStatus 0

/-- Gives the present function variables for itself. -/
def keepLocal (e : Evaluator) (args : List String) : ShellM Unit := do
  if (← Work.get).calls = 0 then e.refuse "not in a function"
  for arg in args do
    let (name, value) := declared arg
    if name = "-" then
      Work.modify fun s => { s with localOptions := s.localOptions <|> some s.options }
    else
      requireName e name
      Work.modify fun s => s.keep name
      match value with
      | some v => assignTo e name v
      | none => Work.modify fun s => s.changeVariable name id
  setStatus 0

/-- Takes variables or functions out. -/
def unset (e : Evaluator) (args : List String) : ShellM Unit := do
  let (letters, names) ← takeOptions e "vf" args
  let isFunction := letters.getLast?.any (·.1 == 'f')
  for name in names do
    if isFunction then
      Work.modify fun s => { s with functions := s.functions.erase name }
    else
      requireName e name
      if (← Work.get).isFixed name then e.refuse s!"{name}: is read only"
      Work.modify fun s => { s with bindings := s.bindings.erase name }
  setStatus 0

/-! ### Aliases -/

/-- Declares aliases, or tells what they are. -/
def alias_ (args : List String) : ShellM Unit := do
  setStatus 0
  let s ← Work.get
  let line (name text : String) : String := name ++ "=" ++ inQuotes text ++ "\n"
  if args.isEmpty then say (String.join (s.aliases.entries.map fun e => line e.1 e.2))
  for arg in args do
    match declared arg with
    | (name, some text) =>
      if name ≠ "" then Work.modify fun s => { s with aliases := s.aliases.insert name text }
    | (name, none) =>
      match (← Work.get).aliases.get? name with
      | some text => say (line name text)
      | none =>
        actAs fun pid m => ((), m.write pid 2 s!"alias: {name} not found\n")
        setStatus 1

/-- Takes aliases out. -/
def unalias (e : Evaluator) (args : List String) : ShellM Unit := do
  let (letters, names) ← takeOptions e "a" args
  setStatus 0
  if !letters.isEmpty then Work.modify fun s => { s with aliases := {} }
  else
    for name in names do
      if ((← Work.get).aliases.get? name).isSome then
        Work.modify fun s => { s with aliases := s.aliases.erase name }
      else
        actAs fun pid m => ((), m.write pid 2 s!"unalias: {name} not found\n")
        setStatus 1

/-! ### Parameters and options -/

/-- The shell with other parameters. -/
def withParameters (s : Shell) (parameters : List String) : Shell :=
  { s with parameters, optionPlace := {} }

/-- The table of the options. -/
def optionTable (on : Bool) (s : Shell) : String :=
  let rows := optionNames.map fun (letter, name) =>
    let room := String.ofList (List.replicate (16 - name.length) ' ')
    if on then name ++ room ++ (if s.has letter then "on" else "off") ++ "\n"
    else (if s.has letter then "set -o " else "set +o ") ++ name ++ "\n"
  (if on then "Current option settings\n" else "") ++ String.join rows

/-- Sets the options of one argument; an option by name takes the next argument. -/
def setLetters (e : Evaluator) (on : Bool) : List Char → List String → ShellM (List String)
  | [], rest => return rest
  | 'o' :: letters, [] => do
    say (optionTable on (← Work.get))
    setLetters e on letters []
  | 'o' :: letters, name :: rest => do
    match optionNames.find? fun o => o.2 == name with
    | some (letter, _) => Work.modify fun s => s.setOption on letter
    | none => e.refuse s!"Illegal option -o {name}"
    setLetters e on letters rest
  | c :: letters, rest => do
    if (optionNames.lookup c).isNone then e.refuse s!"Illegal option -{c}"
    Work.modify fun s => s.setOption on c
    setLetters e on letters rest

/-- Sets the options and parameters that no more than so many arguments give. -/
def setArguments (e : Evaluator) : Nat → List String → ShellM Unit
  | n + 1, arg :: rest => do
    match arg.toList with
    | ['-', '-'] => Work.modify fun s => withParameters s rest
    | ['-'] =>
      Work.modify fun s => (s.setOption false 'x').setOption false 'v'
      if !rest.isEmpty then Work.modify fun s => withParameters s rest
    | '-' :: letters => setArguments e n (← setLetters e true letters rest)
    | '+' :: letters => setArguments e n (← setLetters e false letters rest)
    | _ => Work.modify fun s => withParameters s (arg :: rest)
  | _, _ => pure ()

/-- Sets options and parameters, or tells the variables. -/
def setAll (e : Evaluator) (args : List String) : ShellM Unit := do
  if args.isEmpty then say (declarations "" (fun v => v.value.isSome) (← Work.get))
  setArguments e args.length args
  setStatus 0

/-- Drops parameters. -/
def shift (e : Evaluator) (args : List String) : ShellM Unit := do
  let n ← firstNumber e 1 args
  let s ← Work.get
  if s.parameters.length < n then e.refuse "can't shift that many"
  Work.modify fun s => withParameters s (s.parameters.drop n)
  setStatus 0

/-! ### Lines -/

/-- The next line of a text, which may go on after a backslash: its characters, each with whether a
backslash stood before it; whether the line has an end; and the number of characters taken. -/
def logicalLine (raw : Bool) : List Char → List (Char × Bool) × Bool × Nat
  | [] => ([], false, 0)
  | '\n' :: _ => ([], true, 1)
  | '\\' :: c :: rest =>
    if raw then
      let (line, ended, n) := logicalLine raw (c :: rest)
      (('\\', false) :: line, ended, n + 1)
    else
      let (line, ended, n) := logicalLine raw rest
      (if c == '\n' then line else (c, true) :: line, ended, n + 2)
  | c :: rest =>
    let (line, ended, n) := logicalLine raw rest
    (if c == '\\' && !raw || c == '\x00' then line else (c, false) :: line, ended, n + 1)

/-- How far a line has been cut into words. -/
structure LineCut where
  /-- The words that are complete, the last one first. -/
  done : List String := []
  /-- The word that has been begun, in reverse. -/
  current : List Char := []
  /-- Separators after it, in reverse, that do not count if nothing else follows. -/
  pending : List Char := []
  /-- How many words are to be told from what follows them. -/
  left : Nat
  /-- Whether a blank has just ended a word. -/
  afterBlank : Bool := false

/-- Whether a character is a blank that may separate words. -/
def isGap (c : Char) : Bool :=
  c == ' ' || c == '\t' || c == '\n'

/-- The cut after one more character, which may be quoted.  The last word takes all that remains,
but for one separator at its end and blanks. -/
def LineCut.add (separators : String) (k : LineCut) (c : Char) (quoted : Bool) : LineCut :=
  let isSeparator := !quoted && separators.contains c
  let isBlank := isSeparator && isGap c
  if k.left = 0 then
    if isBlank || (isSeparator && k.afterBlank) then
      { k with pending := c :: k.pending, afterBlank := isBlank && k.afterBlank }
    else { k with current := c :: k.pending ++ k.current, pending := [], afterBlank := false }
  else if k.afterBlank && isBlank then k
  else if k.afterBlank && isSeparator then { k with afterBlank := false }
  else if !isSeparator then { k with current := c :: k.current, afterBlank := false }
  else if k.current.isEmpty && isBlank then k
  else if k.left = 1 then { k with left := 0, pending := [c], afterBlank := isBlank }
  else
    { k with
      done := String.ofList k.current.reverse :: k.done
      current := []
      left := k.left - 1
      afterBlank := isBlank }

/-- The words of a line, of which the last one takes what remains. -/
def lineWords (separators : String) (count : Nat) (line : List (Char × Bool)) : List String :=
  let cut : LineCut :=
    line.foldl (fun (k : LineCut) c => k.add separators c.1 c.2) { left := count }
  (String.ofList cut.current.reverse :: cut.done).reverse

/-- Reads a line into variables. -/
def readWords (e : Evaluator) (args : List String) : ShellM Unit := do
  let (letters, names) ← takeOptions e "p:r" args
  if names.isEmpty then e.refuse "arg count"
  let raw := letters.any (·.1 == 'r')
  let taken ← actAs fun pid m =>
    m.take pid 0 fun text =>
      String.ofList (text.toList.take (logicalLine raw text.toList).2.2)
  let text := (taken.toOption.getD "").toList
  let (line, ended, _) := logicalLine raw text
  let values := lineWords (← Work.get).separators names.length line
  for (name, i) in names.zipIdx do
    requireName e name
    assignTo e name (values[i]?.getD "")
  setStatus (if ended then 0 else 1)

/-! ### Options of scripts -/

/-- What has been found where options are looked for. -/
inductive FoundOption where
  /-- No further option. -/
  | none
  /-- An option, with its value if it has one. -/
  | option (letter : Char) (value : String)
  /-- A letter that is not known. -/
  | unknown (letter : Char)
  /-- An option whose value is missing. -/
  | incomplete (letter : Char)
  deriving DecidableEq, Repr

/-- The next option among arguments, looked for from a place on, and the place after it. -/
def nextOption (known : List Char) (args : List String) (place : OptionPlace) :
    FoundOption × OptionPlace :=
  let going (next : Nat) (letters : Nat) : FoundOption × OptionPlace :=
    let cs := ((args[next - 2]?).getD "").toList.drop letters
    match cs with
    | [] => (.none, ⟨next, none⟩)
    | c :: rest =>
      let later : OptionPlace := ⟨next, some (letters + 1)⟩
      match known.dropWhile (· != c) with
      | [] => (.unknown c, later)
      | _ :: ':' :: _ =>
        if !rest.isEmpty then (.option c (String.ofList rest), ⟨next, none⟩)
        else match args[next - 1]? with
          | some value => (.option c value, ⟨next + 1, none⟩)
          | none => (.incomplete c, later)
      | _ => (.option c "", later)
  let fresh : FoundOption × OptionPlace :=
    match ((args[place.next - 1]?).getD "").toList with
    | ['-', '-'] => (.none, ⟨place.next + 1, none⟩)
    | '-' :: _ :: _ => going (place.next + 1) 1
    | _ => (.none, ⟨place.next, none⟩)
  match place.letters with
  | some n =>
    if place.next ≤ 1 || ((args[place.next - 2]?).getD "").length ≤ n then fresh
    else going place.next n
  | none => fresh

/-- Looks for the next option of a script. -/
def getopts (e : Evaluator) (args : List String) : ShellM Unit := do
  match args with
  | known :: name :: more =>
    let s ← Work.get
    let given := if more.isEmpty then s.parameters else more
    let place := if given.length + 1 < s.optionPlace.next then {} else s.optionPlace
    let silent := known.startsWith ":"
    let (found, place) := nextOption known.toList given place
    let warn (text : String) : ShellM Unit := do
      actAs fun pid m => ((), m.write pid 2 (text ++ "\n"))
      Work.modify fun s => { s with bindings := s.bindings.erase "OPTARG" }
    let letter ← match found with
      | .none => pure '?'
      | .option c value =>
        assignTo e "OPTARG" value
        pure c
      | .unknown c =>
        if silent then assignTo e "OPTARG" (String.singleton c)
        else warn s!"Illegal option -{c}"
        pure '?'
      | .incomplete c =>
        if silent then assignTo e "OPTARG" (String.singleton c)
        else warn s!"No arg for -{c} option"
        pure (if silent then ':' else '?')
    assignTo e "OPTIND" (toString place.next)
    requireName e name
    assignTo e name (String.singleton letter)
    Work.modify fun s => { s with optionPlace := place }
    setStatus (if found = .none then 1 else 0)
  | _ => e.refuse "Usage: getopts optstring var [arg...]"

end ServiceHarness.Shell
