import ServiceHarness.Machine.Image

/-!
# Utilities

A `Utility` is what a small program does at once for a process: it takes its arguments and tells
its exit code and the machine after it.  A `Task` is the style in which utilities are written: it
reads, puts out and complains under the name of the program, goes on after a fault that concerns
one operand only, and may be left with an exit code.
-/

namespace ServiceHarness

/-- What a program does at once for a process that has become an image of it: its exit code and the
machine after it. -/
abbrev Utility := Image → Nat → Machine → Nat × Machine

/-- A process, the name under which it complains and the variables that it sees. -/
structure Occupation where
  /-- The process. -/
  pid : Nat
  /-- The name. -/
  name : String
  /-- The variables. -/
  environment : Environment

/-- How far a program has come. -/
structure Progress where
  /-- The machine. -/
  machine : Machine
  /-- The exit code, if nothing worse happens. -/
  code : Nat := 0
  /-- Whether something that was put out has been lost. -/
  hasLostOutput : Bool := false

/-- What a program does at once, which may be left with an exit code. -/
abbrev Task := ReaderT Occupation (ExceptT Nat (StateM Progress))

namespace Task

variable {α : Type}

/-- Acts on the machine. -/
def act (f : Nat → Machine → α × Machine) : Task α := do
  let o ← read
  modifyGet fun p =>
    let (a, machine) := f o.pid p.machine
    (a, { p with machine })

/-- Looks at the machine. -/
def look (f : Nat → Machine → α) : Task α :=
  act fun pid m => (f pid m, m)

/-- Changes the machine. -/
def update (f : Machine → Machine) : Task Unit :=
  act fun _ m => ((), f m)

/-- Changes the files. -/
def updateFiles (f : FileTree → FileTree) : Task Unit :=
  update fun m => { m with files := f m.files }

/-- Leaves the task. -/
def quit (code : Nat) : Task α :=
  throw code

/-- Sees to it that the exit code is no smaller than this. -/
def mark (code : Nat) : Task Unit :=
  modify fun p => { p with code := max p.code code }

/-- Puts out a line where errors go. -/
def tell (line : String) : Task Unit :=
  act fun pid m => ((), m.write pid 2 (line ++ "\n"))

/-- Complains and goes on. -/
def complain (text : String) (code : Nat := 1) : Task Unit := do
  let name := (← read).name
  tell s!"{name}: {text}"
  mark code

/-- Complains and leaves the task. -/
def fail (text : String) (code : Nat := 1) : Task α := do
  complain text code
  quit code

/-- Refuses the arguments. -/
def refuse (text : String) (code : Nat := 1) : Task α := do
  complain text code
  let name := (← read).name
  tell s!"Try '{name} --help' for more information."
  quit code

/-- Puts out a text. -/
def say (text : String) : Task Unit := do
  let isLost ← act fun pid m => (!m.canWrite pid 1 && text != "", m.write pid 1 text)
  if isLost then modify fun p => { p with hasLostOutput := true }

/-- What is read from a file, or from the input for `-`. -/
def input (name : String) : Task (Except PathFault String) :=
  act fun pid m =>
    if name = "-" then m.readAll pid
    else match m.streamAt? pid name with
    | some (some s) => (m.available s, m)
    | _ => (m.files.read (m.directoryOf pid) name, m)

/-- Why the output of a process cannot be written. -/
def lossText (m : Machine) (pid : Nat) : String :=
  if m.stream? pid 1 = some (.device .full) then "No space left on device"
  else PathFault.closed.text

/-- The utility that does a task with the arguments. -/
def utility (body : List String → Task Unit) : Utility := fun image pid m =>
  let occupation : Occupation := ⟨pid, image.program, image.environment⟩
  let (result, p) := (body image.args).run occupation |>.run |>.run { machine := m }
  let code := match result with
    | .ok _ => p.code
    | .error code => code
  if p.hasLostOutput then
    let reason := lossText p.machine pid
    (max code 1, p.machine.write pid 2 s!"{image.program}: write error: {reason}\n")
  else (code, p.machine)

end Task

/-! ### Names in complaints -/

namespace Name

/-- Whether a character stands for itself in a command. -/
def isPlain (c : Char) : Bool :=
  c.isAlphanum || "%+,-./:@_]\x7b\x7d~#".contains c

/-- The control characters that have a letter behind a backslash. -/
def escapes : List (Char × Char) :=
  [('\x07', 'a'), ('\x08', 'b'), ('\t', 't'), ('\n', 'n'), ('\x0b', 'v'), ('\x0c', 'f'),
    ('\r', 'r')]

/-- Whether a character cannot be shown. -/
def isControl (c : Char) : Bool :=
  c.toNat < 32 || 127 ≤ c.toNat

/-- A character that cannot be shown by its escape, or by those of its bytes. -/
def escaped (c : Char) : String :=
  match escapes.lookup c with
  | some letter => s!"\\{letter}"
  | none =>
    let octal (byte : UInt8) : String :=
      let digits := Nat.toDigits 8 byte.toNat
      "\\" ++ String.ofList (List.replicate (3 - digits.length) '0' ++ digits)
    String.join ((String.ofList [c]).toUTF8.toList.map octal)

/-- The characters of a name within quotes, of which the end stands open. -/
def quotedFrom : (inEscape : Bool) → List Char → String
  | false, [] => "'"
  | true, [] => "'"
  | inEscape, c :: rest =>
    if isControl c then
      (if inEscape then "" else "'$'") ++ escaped c ++ quotedFrom true rest
    else
      (if inEscape then "''" else "")
        ++ (if c = '\'' then "'\\''" else String.ofList [c]) ++ quotedFrom false rest

/-- A name in quotes. -/
def quoted (name : String) : String :=
  let cs := name.toList
  if cs.contains '\'' && cs.all fun c => !isControl c && !"\"$\x60\\!".contains c then
    "\"" ++ name ++ "\""
  else "'" ++ quotedFrom false cs

/-- A name, in quotes if it could not stand without them in a command. -/
def shown (name : String) : String :=
  let isSpecial := name = "" || "~#".contains (name.toList.headD 'a')
  if !isSpecial && name.toList.all isPlain then name else quoted name

end Name

end ServiceHarness
