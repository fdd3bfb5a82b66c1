import ServiceHarness.Environment
import ServiceHarness.Machine.Shell.Reading
import ServiceHarness.Machine.Thread

/-!
# Shells

A `Shell` is the state of a process that runs scripts: its variables, functions and parameters,
the status of the last command, what it does about signals, and whether it is on its way out of a
loop or a function.
-/

namespace ServiceHarness

/-- Whether a shell is on its way out of something. -/
inductive Unwinding where
  /-- It is not. -/
  | none
  /-- It leaves so many loops. -/
  | leaving (loops : Nat)
  /-- It leaves all but the last of so many loops, and goes on with that. -/
  | continuing (loops : Nat)
  /-- It leaves a function. -/
  | returning
  deriving DecidableEq, Repr

/-- A variable. -/
structure Variable where
  /-- Its value, if it has one. -/
  value : Option String := none
  /-- Whether programs see it. -/
  exported : Bool := false
  /-- Whether it keeps its value. -/
  fixed : Bool := false
  deriving DecidableEq, Repr

/-- How far the options among some arguments have been looked at. -/
structure OptionPlace where
  /-- The number of the next argument. -/
  next : Nat := 1
  /-- How many letters of the argument before that have been looked at, if there may be more. -/
  letters : Option Nat := none
  deriving DecidableEq, Repr

/-- The state of a process that runs scripts. -/
structure Shell where
  /-- The process. -/
  pid : Nat
  /-- The process that the scripts take it for. -/
  mainPid : Nat
  /-- The name under which it runs. -/
  name : String
  /-- The parameters. -/
  parameters : List String := []
  /-- The variables. -/
  bindings : KeyMap Variable := {}
  /-- The variables that the present function keeps to itself, as they were before. -/
  locals : List (String × Option Variable) := []
  /-- The options as they were before the present function, if it keeps them to itself. -/
  localOptions : Option (List Char) := none
  /-- The number of functions in which it is. -/
  calls : Nat := 0
  /-- The functions. -/
  functions : KeyMap Shell.Script := {}
  /-- The aliases. -/
  aliases : KeyMap String := {}
  /-- The status of the last command. -/
  status : Nat := 0
  /-- The status of the last command whose output was taken into the present one. -/
  substituted : Option Nat := none
  /-- The last process that was not waited for. -/
  lastBackground : Option Nat := none
  /-- The processes that were not waited for, each with the number of its job. -/
  jobs : List (Nat × Nat) := []
  /-- What is done on signals, and on the exit for zero. -/
  traps : List (Nat × String) := []
  /-- The signals about which nothing can be done, as they were ignored from the start. -/
  untouchable : List Nat := []
  /-- The number of loops in which it is. -/
  loops : Nat := 0
  /-- Whether it is on its way out of something. -/
  unwinding : Unwinding := .none
  /-- The letters of the options that are on. -/
  options : List Char := []
  /-- How far the options of the parameters have been looked at. -/
  optionPlace : OptionPlace := {}
  /-- Whether the streams of the present command are to stay. -/
  keepsStreams : Bool := false
  /-- The line of the present command. -/
  line : Nat := 1
  /-- The builtin that is being carried out. -/
  builtin : Option String := none
  /-- Whether something that was put out has been lost. -/
  hasLostOutput : Bool := false
  /-- Its directory, by the way on which it came there. -/
  directory : String := "/"
  /-- The permissions that new files do not get. -/
  mask : Nat := 18
  /-- The names of the programs whose paths it has looked up. -/
  remembered : List String := []

namespace Shell

/-- What a shell does. -/
abbrev ShellM := Work Shell

/-! ### Options -/

/-- The options with their names; those that are on are told in the opposite order. -/
def optionNames : List (Char × String) :=
  [('e', "errexit"), ('f', "noglob"), ('I', "ignoreeof"), ('i', "interactive"), ('m', "monitor"),
    ('n', "noexec"), ('s', "stdin"), ('x', "xtrace"), ('v', "verbose"), ('V', "vi"),
    ('E', "emacs"), ('C', "noclobber"), ('a', "allexport"), ('b', "notify"), ('u', "nounset"),
    ('p', "privileged"), ('\x00', "nolog"), ('\x01', "debug")]

/-- Whether an option is on. -/
def has (s : Shell) (letter : Char) : Bool :=
  s.options.contains letter

/-- The shell after an option has been turned on or off. -/
def setOption (on : Bool) (s : Shell) (letter : Char) : Shell :=
  let others := s.options.filter (· != letter)
  { s with options := if on then letter :: others else others }

/-- The letters of the options that are on. -/
def optionLetters (s : Shell) : String :=
  let letters := (optionNames.map (·.1)).filter fun c => s.has c && c.isAlpha
  String.ofList letters.reverse

/-! ### Variables and parameters -/

/-- The value of a variable. -/
def lookup? (s : Shell) (name : String) : Option String :=
  (s.bindings.get? name).bind Variable.value

/-- The value of a parameter other than the one for all. -/
def value? (s : Shell) (name : String) : Option String :=
  match name with
  | "?" => some (toString s.status)
  | "$" => some (toString s.mainPid)
  | "!" => s.lastBackground.map toString
  | "#" => some (toString s.parameters.length)
  | "-" => some s.optionLetters
  | _ =>
    match name.toNat? with
    | some 0 => some s.name
    | some n => s.parameters[n - 1]?
    | none => s.lookup? name

/-- Whether a variable keeps its value. -/
def isFixed (s : Shell) (name : String) : Bool :=
  ((s.bindings.get? name).map Variable.fixed).getD false

/-- The shell after a variable has got a value.  The variable that counts options tells where
these are looked at next, and after a change of the directories of programs these are looked up
again. -/
def assign (s : Shell) (name value : String) : Shell :=
  let old := (s.bindings.get? name).getD {}
  let s := { s with
    bindings := s.bindings.insert name
      { old with value := some value, exported := old.exported || s.has 'a' } }
  match name with
  | "OPTIND" => { s with optionPlace := ⟨(value.toNat?.filter (· != 0)).getD 1, none⟩ }
  | "PATH" => { s with remembered := [] }
  | _ => s

/-- The variables with one of them as it was before. -/
def restored (vs : KeyMap Variable) (name : String) : Option Variable → KeyMap Variable
  | some v => vs.insert name v
  | none => vs.erase name

/-- The shell after something has been done with a variable, which may be new. -/
def changeVariable (s : Shell) (name : String) (f : Variable → Variable) : Shell :=
  { s with bindings := s.bindings.insert name (f ((s.bindings.get? name).getD {})) }

/-- The shell after the present function has been given a variable for itself. -/
def keep (s : Shell) (name : String) : Shell :=
  if s.locals.any (·.1 == name) then s
  else { s with locals := (name, s.bindings.get? name) :: s.locals }

/-- The shell after programs have been let see a variable. -/
def export_ (s : Shell) (name : String) : Shell :=
  s.changeVariable name fun v => { v with exported := true }

/-- The variables that programs see. -/
def environment (s : Shell) : Environment :=
  KeyMap.ofList (s.bindings.entries.filterMap fun e =>
    if e.2.exported then e.2.value.map (e.1, ·) else none)

/-- The characters that separate fields. -/
def separators (s : Shell) : String :=
  (s.lookup? "IFS").getD " \t\n"

/-- Whether something is to be done on a signal or on the exit. -/
def hasTraps (s : Shell) : Bool :=
  s.traps.any fun t => t.2 != ""

/-- The shell with one more process for which it does not wait. -/
def addJob (s : Shell) (pid : Nat) : Shell :=
  let isFree (n : Nat) : Bool := !s.jobs.any (·.1 == n)
  let number := ((List.range (s.jobs.length + 1)).map (· + 1)).find? isFree
  { s with lastBackground := some pid, jobs := s.jobs ++ [(number.getD 1, pid)] }

/-! ### Acting -/

/-- Sets the status. -/
def setStatus (n : Nat) : ShellM Unit :=
  Work.modify fun s => { s with status := n }

/-- Acts on the machine as the process of the shell. -/
def actAs {α : Type} (f : Nat → Machine → α × Machine) : ShellM α := do
  let s ← Work.get
  Work.act (f s.pid)

/-- Puts out a text. -/
def say (text : String) : ShellM Unit := do
  let isLost ← actAs fun pid m =>
    (!m.canWrite pid 1 && text != "", m.write pid 1 text)
  if isLost then Work.modify fun s => { s with hasLostOutput := true }

/-- The beginning of what is told about a fault. -/
def complaintOf (s : Shell) : String :=
  match s.builtin with
  | some b => s!"{s.name}: {s.line}: {b}: "
  | none => s!"{s.name}: {s.line}: "

/-- Complains. -/
def complain (text : String) : ShellM Unit := do
  let s ← Work.get
  actAs fun pid m => ((), m.write pid 2 (s.complaintOf ++ text ++ "\n"))

/-- Does something on a line that need not be that of the present command. -/
def onLine (line : Nat) : ShellM Unit :=
  Work.modify fun s => { s with line }

end Shell

end ServiceHarness
