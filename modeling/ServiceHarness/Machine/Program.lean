import ServiceHarness.Machine.Program.Finding
import ServiceHarness.Machine.Shell.Interpreter
import ServiceHarness.Machine.Utility.Table

/-!
# Programs

`Program.execute` tells what a process does once it has become an image.  The programs are the
utilities, a shell, and a few that sleep, run other programs or become them; a script with a first
line that names its interpreter is run by that.
-/

namespace ServiceHarness.Program

/-- The names under which the shell is found. -/
def shells : List String :=
  ["sh", "dash", "bash"]

/-- The programs that are more than utilities. -/
def table (execute : Execute) : List (String × (Image → Nat → Thread)) :=
  [("sleep", sleep), ("printenv", printenv), ("yes", yes), ("env", env execute),
    ("nice", nice execute), ("nohup", nohup execute), ("setsid", setsid execute),
    ("timeout", timeout execute), ("xargs", xargs execute), ("find", find execute)]
    ++ shells.map fun name => (name, Shell.thread execute)

/-- The names of all programs. -/
def names : List String :=
  Utility.table.map (·.1) ++ (table fun _ _ _ => .error .badFormat).map (·.1)

/-- Whether a utility waits for more where it has come to the end. -/
def isFollowing (name : String) (args : List String) : Bool :=
  name = "tail" && args.any fun a => ["-f", "-F", "--follow"].contains a

/-- What a program of a name does. -/
def ofName (execute : Execute) (name : String) (image : Image) (pid : Nat) : Thread :=
  match (table execute).lookup name with
  | some program => program image pid
  | none => .act fun m =>
    match Utility.ofName? name with
    | some u =>
      let (code, m) := u image pid m
      (m, if isFollowing name image.args then .sleep endless (.exit code) else .exit code)
    | none => (m, .exit 127)

/-- The number of characters at the beginning of a script that are looked at. -/
def headLength : Nat :=
  256

/-- The interpreter that the first line of a script names, with its argument.  Where the line is not
at its end within the characters that are looked at, at least the name has to be. -/
def interpreter? (text : String) : Option (String × List String) :=
  match text.toList with
  | '#' :: '!' :: rest =>
    let isBlank (c : Char) := c == ' ' || c == '\t'
    let seen := rest.take (headLength - 2)
    let line := (seen.takeWhile (· != '\n')).dropWhile isBlank
    let path := line.takeWhile fun c => !isBlank c
    let isCut := !seen.contains '\n' && headLength ≤ text.length
    let arg := (((line.drop path.length).dropWhile isBlank).reverse.dropWhile isBlank).reverse
    if path.isEmpty || (isCut && path.length = line.length) then none
    else some (String.ofList path, if arg.isEmpty then [] else [String.ofList arg])
  | _ => none

/-- The thread of a process whose image is new: it catches nothing. -/
def begun (pid : Nat) (thread : Thread) : Thread :=
  .act fun m => (m.change pid fun p => { p with caught := [], pending := [] }, thread)

/-- What a process does that has become an image, where images become others no more often than
`limit` and scripts name others as their interpreters no more often than `hops`. -/
def executeWithin : (limit : Nat) → (hops : Nat) → Execute
  | 0, _ => fun _ _ _ => .error .badFormat
  | n + 1, hops => fun image pid m => do
    let (path, node) ← image.search m pid
    match node with
    | .program name => return begun pid (ofName (executeWithin n hopLimit) name image pid)
    | .file text _ =>
      match interpreter? text with
      | some (interpreter, args) =>
        if hops = 0 then throw .tooManyLinks
        let program := if interpreter.toList.contains '/' then interpreter else "./" ++ interpreter
        executeWithin n (hops - 1)
          { image with program, args := args ++ path :: image.args, readsScripts := false } pid m
      | none =>
        if image.readsScripts then
          executeWithin n hopLimit
            { image with program := "/bin/sh", args := path :: image.args } pid m
        else throw .badFormat
    | _ => throw .denied
where
  /-- How often an interpreter may be a script itself, and one more. -/
  hopLimit : Nat := 5

/-- The number of times that an image may become another one. -/
def executeLimit : Nat :=
  1000

/-- What a process does that has become an image. -/
def execute : Execute :=
  executeWithin executeLimit executeWithin.hopLimit

/-- The directories that are there from the start. -/
def directories : List String :=
  ["/boot", "/etc", "/home", "/lib", "/lib64", "/media", "/mnt", "/opt", "/proc", "/proc/self",
    "/root", "/run", "/sbin", "/srv", "/sys", "/tmp", "/usr/lib", "/usr/local/bin", "/usr/sbin",
    "/usr/share", "/var/log", "/var/tmp"]

/-- The files that are there from the start. -/
def files : List (String × String) :=
  [("/etc/passwd", String.join (Account.all.map Account.line)),
    ("/etc/group", String.join (Account.all.map Account.groupLine)),
    ("/etc/hosts", "127.0.0.1\tlocalhost\n::1\tlocalhost ip6-localhost ip6-loopback\n"),
    ("/etc/hostname", "localhost\n"), ("/etc/shells", "/bin/sh\n/bin/bash\n")]

/-- A tree with the programs, the devices and the files that are there from the start, and with the
directories of these and others. -/
def fileTree (others : List String) : FileTree :=
  let programs := ["/bin", "/usr/bin"].flatMap fun d =>
    names.map fun name => (FileTree.child d name, Node.program name)
  let devices := [("/dev/null", Node.device .null), ("/dev/zero", Node.device .zero),
    ("/dev/full", Node.device .full)]
  let texts := files.map fun (path, text) => (path, Node.file text false)
  let bare := (programs ++ devices ++ texts).foldl (fun t e => FileTree.place t e.1 e.2)
    (KeyMap.empty : FileTree)
  (directories ++ others).foldl FileTree.makeDirectories bare

end ServiceHarness.Program
