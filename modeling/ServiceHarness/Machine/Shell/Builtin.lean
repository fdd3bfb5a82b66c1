import ServiceHarness.Machine.Image
import ServiceHarness.Machine.Shell.Builtin.Processes
import ServiceHarness.Machine.Shell.Builtin.Variables
import ServiceHarness.Machine.Utility.Condition
import ServiceHarness.Text.Format
import ServiceHarness.Text.Permission

/-!
# Builtins

A builtin is a command that the shell carries out itself.  `builtin?` gives the builtins their
names, apart from those that run other commands.
-/

namespace ServiceHarness.Shell

/-- Puts out the arguments with a space between each two, with escapes resolved, of which one may
end the text. -/
def echo (args : List String) : ShellM Unit := do
  let (ending, words) := match args with
    | "-n" :: rest => ("", rest)
    | words => ("\n", words)
  let (shown, whole) := Text.Escape.resolve (" ".intercalate words)
  say (shown ++ if whole then ending else "")
  setStatus 0

/-- Puts out a format with the arguments put in. -/
def printf (e : Evaluator) (args : List String) : ShellM Unit := do
  let (_, args) ← takeOptions e "" args
  match args with
  | [] => e.refuse "usage: printf format [arg ...]"
  | format :: rest =>
    let filled := Text.Format.fill format rest
    say filled.text
    for fault in filled.faults.reverse do
      complain fault
    match filled.refusal with
    | some text => e.refuse text
    | none => setStatus (if filled.faults.isEmpty then 0 else 1)

/-- Tells by the status whether a condition holds. -/
def test (e : Evaluator) (args : List String) : ShellM Unit := do
  let result ← actAs fun pid m => (Condition.holds m pid args, m)
  match (result : Except String Bool) with
  | .ok holds => setStatus (if holds then 0 else 1)
  | .error text => e.refuse text

/-- Tells whether a condition in brackets holds. -/
def bracket (e : Evaluator) (args : List String) : ShellM Unit := do
  if args.getLast? = some "]" then test e args.dropLast else e.refuse "missing ]"

/-- Puts out the directory, as the shell came to it or without links. -/
def pwd (e : Evaluator) (args : List String) : ShellM Unit := do
  let (letters, _) ← takeOptions e "LP" args
  let whole ← actAs fun pid m => (m.directoryOf pid, m)
  let s ← Work.get
  say ((if letters.getLast?.any (·.1 == 'P') then whole else s.directory) ++ "\n")
  setStatus 0

/-- The places where the target of a change of the directory is looked for, and whether each is
told. -/
def directoriesFor (s : Shell) (target : String) : List (String × Bool) :=
  let isRooted := target.startsWith "/"
    || ["", ".", ".."].contains (String.ofList (target.toList.takeWhile (· != '/')))
  let places := if isRooted then [] else ((s.lookup? "CDPATH").getD "").splitOn ":"
  let among := (places.filter (· != "")).map fun d => (FileTree.child d target, true)
  among ++ [(target, false)]

/-- Changes the directory. -/
def changeDirectory (e : Evaluator) (args : List String) : ShellM Unit := do
  let (letters, args) ← takeOptions e "LP" args
  let s ← Work.get
  let target := match args with
    | [] => (s.lookup? "HOME").getD ""
    | "-" :: _ => (s.lookup? "OLDPWD").getD ""
    | a :: _ => a
  let target := if target = "" then "." else target
  let isWhole := letters.getLast?.any (·.1 == 'P')
  let place ← actAs fun pid m =>
    let try_ (place : String × Bool) : Option (String × String × Bool) := do
      let logical := FileTree.normal s.directory place.1
      let path ← (if isWhole then m.files.resolve (m.directoryOf pid) place.1
        else m.files.resolve "/" logical).toOption
      guard (m.files.node? path == some .directory)
      return (path, if isWhole then path else logical, place.2)
    match (directoriesFor s target).findSome? try_ with
    | some found =>
      (some found.2, m.change pid fun p => { p with directory := found.1 })
    | none => (none, m)
  match place with
  | some (directory, isTold) =>
    Work.modify fun s =>
      let s := (s.assign "OLDPWD" s.directory).assign "PWD" directory
      (({ s with directory } : Shell).export_ "OLDPWD").export_ "PWD"
    if isTold || args.head? = some "-" then say (directory ++ "\n")
    setStatus 0
  | none => e.refuse s!"can't cd to {target}"

/-- Tells or sets the permissions that new files do not get. -/
def umask (e : Evaluator) (args : List String) : ShellM Unit := do
  let (letters, args) ← takeOptions e "S" args
  let s ← Work.get
  setStatus 0
  match args with
  | [] =>
    if letters.isEmpty then say (Text.Permission.octal 4 s.mask ++ "\n")
    else say (Text.Permission.symbolic (Text.Permission.all - s.mask) ++ "\n")
  | arg :: _ =>
    if arg.toList.head?.any Char.isDigit then
      match Text.natural? 8 arg.toList with
      | some mask => Work.modify fun s => { s with mask }
      | none => e.refuse s!"Illegal number: {arg}"
    else match Text.Permission.change? arg (Text.Permission.all - s.mask) with
      | some mode => Work.modify fun s => { s with mask := Text.Permission.all - mode }
      | none => e.refuse s!"Illegal mode: {arg}"

/-- Tells the limits of processes, none of which there is. -/
def ulimit (args : List String) : ShellM Unit := do
  let isTold := args.all (·.startsWith "-") && !args.contains "-a"
  if isTold then say "unlimited\n"
  setStatus 0

/-- Looks up the paths of programs. -/
def hash (e : Evaluator) (args : List String) : ShellM Unit := do
  let (letters, names) ← takeOptions e "rv" args
  setStatus 0
  let s ← Work.get
  if letters.any (·.1 == 'r') then Work.modify fun s => { s with remembered := [] }
  else if names.isEmpty then
    for name in s.remembered do
      let found ← actAs fun pid m => (Image.search m pid ⟨name, [], s.environment, true⟩, m)
      match (found : Except PathFault (String × Node)) with
      | .ok (path, _) => say (path ++ "\n")
      | .error _ => pure ()
  for name in names do
    let found ← actAs fun pid m => (Image.search m pid ⟨name, [], s.environment, true⟩, m)
    match (found : Except PathFault (String × Node)) with
    | .ok _ => Work.modify fun s => { s with remembered := s.remembered ++ [name] }
    | .error _ =>
      complain s!"{name}: not found"
      setStatus 1

/-- The builtins by name. -/
def builtin? (e : Evaluator) (name : String) (args : List String) : Option (ShellM Unit) :=
  match name with
  | ":" | "true" => some (setStatus 0)
  | "false" => some (setStatus 1)
  | "echo" => some (echo args)
  | "printf" => some (printf e args)
  | "test" => some (test e args)
  | "[" => some (bracket e args)
  | "pwd" => some (pwd e args)
  | "cd" | "chdir" => some (changeDirectory e args)
  | "export" =>
    some (declare e "export" Variable.exported (fun v => { v with exported := true }) args)
  | "readonly" =>
    some (declare e "readonly" Variable.fixed (fun v => { v with fixed := true }) args)
  | "local" => some (keepLocal e args)
  | "unset" => some (unset e args)
  | "set" => some (setAll e args)
  | "shift" => some (shift e args)
  | "getopts" => some (getopts e args)
  | "read" => some (readWords e args)
  | "alias" => some (alias_ args)
  | "unalias" => some (unalias e args)
  | "trap" => some (trap e args)
  | "kill" => some (kill e args)
  | "wait" => some (wait e args)
  | "jobs" => some tellJobs
  | "fg" | "bg" => some (e.refuse "No current job")
  | "exit" => some (exit e args)
  | "break" => some (unwind e .leaving args)
  | "continue" => some (unwind e .continuing args)
  | "return" => some (return_ e args)
  | "umask" => some (umask e args)
  | "ulimit" => some (ulimit args)
  | "times" => some do
    say "0m0.000000s 0m0.000000s\n0m0.000000s 0m0.000000s\n"
    setStatus 0
  | "hash" => some (hash e args)
  | _ => none

/-- The names of the builtins that run other commands. -/
def runners : List String :=
  ["eval", ".", "exec", "command", "type"]

/-- Whether a name is that of a builtin. -/
def isBuiltin (e : Evaluator) (name : String) : Bool :=
  runners.contains name || (builtin? e name []).isSome

end ServiceHarness.Shell
