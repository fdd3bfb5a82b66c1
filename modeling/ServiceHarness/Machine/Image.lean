import ServiceHarness.Environment
import ServiceHarness.Machine.Thread

/-!
# Images

An `Image` is what a process is to become: a program with its arguments and the variables that it
sees.  `Image.search` tells which file the program is on a machine: a name with a slash is a path,
and any other name is looked for in the directories of the variable `PATH`.
-/

namespace ServiceHarness

/-- What a process is to become. -/
structure Image where
  /-- The program. -/
  program : String
  /-- Its arguments. -/
  args : List String
  /-- The variables that it sees. -/
  environment : Environment
  /-- Whether a file that is no program is read as a script. -/
  readsScripts : Bool := true

/-- Tells what a process does once it has become an image, or why it cannot become it. -/
abbrev Execute := Image → Nat → Machine → Except PathFault Thread

namespace Image

/-- The directories in which programs are looked for where nothing else is said. -/
def defaultPath : String :=
  "/bin:/usr/bin"

/-- The directories in which a shell looks for programs where nothing else is said. -/
def ownPath : String :=
  "/usr/local/sbin:/usr/local/bin:/usr/sbin:/usr/bin:/sbin:/bin"

/-- Whether a node can be executed. -/
def executable? : Node → Except PathFault Node
  | .file text true => .ok (.file text true)
  | .program name => .ok (.program name)
  | _ => .error .denied

/-- What can be executed at a path. -/
def at? (m : Machine) (pid : Nat) (path : String) : Except PathFault Node := do
  executable? (← m.files.lookup (m.directoryOf pid) path)

/-- What can be executed under a name in one of the directories.  That something may not be
executed is told only if nothing else is found. -/
def searchIn (m : Machine) (pid : Nat) (name : String) :
    PathFault → List String → Except PathFault (String × Node)
  | fault, [] => .error fault
  | fault, directory :: rest =>
    let path := if directory = "" then name else FileTree.child directory name
    match at? m pid path with
    | .ok node => .ok (path, node)
    | .error .denied => searchIn m pid name .denied rest
    | .error .missing | .error .notDirectory => searchIn m pid name fault rest
    | .error other => .error other

/-- The path of the file that a program is, and what stands there. -/
def search (m : Machine) (pid : Nat) (i : Image) : Except PathFault (String × Node) :=
  if i.program.toList.contains '/' then (at? m pid i.program).map (i.program, ·)
  else if i.program = "" then .error .missing
  else
    let path := (i.environment.get? "PATH").getD defaultPath
    searchIn m pid i.program .missing (path.splitOn ":")

end Image

end ServiceHarness
