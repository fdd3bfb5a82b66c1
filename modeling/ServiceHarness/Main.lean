import ServiceHarness.Machine.Station
import ServiceHarness.RunId

/-!
# The command line

`main` is one invocation of the program.  It reads what the invocation can depend on, which is the
variables, the harness file and the scripts that the plan names, and leaves everything else to
`Station.invoke`.  The processes are those of the host of a station, so that whatever a run does
to the files, it does to the files of the host.
-/

namespace ServiceHarness.Surroundings

/-- The variables that the program reads by itself. -/
def ownVariables : List String :=
  ["HOME", "PATH", "INSTANCE_URL", "TESTBED_CONFIG", Log.filterVariable, Log.formatVariable]

/-- The names in a text, to which it may refer as variables. -/
def names (text : String) : List String :=
  (text.splitToList fun c => !(c.isAlphanum || c == '_')).filter (· ≠ "")

/-- The variables of these names that are there. -/
def environment (names : List String) : IO Environment :=
  names.foldlM
    (fun environment name => do
      match ← IO.getEnv name with
      | some value => return environment.insert name value
      | none => return environment)
    KeyMap.empty

/-- A text that can be read at a path. -/
def text? (path : String) : IO (Option String) := do
  try return some (← IO.FS.readFile path) catch _ => return none

/-- A tree with the texts of those paths at which one can be read. -/
def addTexts (directory : String) (isScript : Bool) (paths : List String) (tree : FileTree) :
    IO FileTree :=
  paths.foldlM
    (fun tree path => do
      match ← text? path with
      | some text => return tree.place (FileTree.normal directory path) (.file text isScript)
      | none => return tree)
    tree

/-- The paths at which the harness file of an invocation may be. -/
def harnessFiles (environment : Environment) (args : List String) : List String :=
  match CommandLine.parse environment args with
  | .ok a => (a.config.map fun path => [path, path ++ ".toml"]).getD []
  | .error _ => []

/-- The paths at which the programs of a plan may be. -/
def programFiles (environment : Environment) (plan : Plan) : List String :=
  let commands := plan.workspaceTest :: plan.integrationTest
    :: plan.services.flatMap fun s => [s.build, s.run]
  let directories := ((environment.get? "PATH").getD Image.defaultPath).splitOn ":"
  (commands.map Command.program).eraseDups.flatMap fun name =>
    if name.toList.contains '/' then [FileTree.normal plan.directory name]
    else directories.map fun directory => FileTree.child directory name

/-- The host of an invocation in a directory. -/
def host (directory : String) (args : List String) : IO Host := do
  let seen := ownVariables ++ args.flatMap names
  let environment ← Surroundings.environment seen
  let bare := Program.fileTree [directory]
  let files ← addTexts directory false (harnessFiles environment args) bare
  let declared := files.entries.flatMap fun
    | (_, .file text _) => names text
    | _ => []
  let environment ← Surroundings.environment (seen ++ declared)
  let plan := CommandLine.parse environment args |>.toOption |>.bind fun a =>
    (a.plan { environment, files, directory, userHome := some Account.root.home }).toOption
  let scripts := (plan.map (programFiles environment)).getD []
  return Host.ofFiles (← addTexts directory true scripts files) directory environment

/-- Eight bytes as a word. -/
def word (bytes : List UInt8) : UInt64 :=
  bytes.foldl (fun w b => w * 256 + b.toUInt64) 0

end ServiceHarness.Surroundings

open ServiceHarness in
/-- Invokes the program with arguments; tells the exit status. -/
def main (args : List String) : IO UInt32 := do
  let host ← Surroundings.host (← IO.currentDir).toString args
  let bytes := (← IO.getRandomBytes 16).toList
  let runId := RunId.ofWords (Surroundings.word (bytes.take 8)) (Surroundings.word (bytes.drop 8))
  let station : Station := { launcher := { kernel := host } }
  let left := station.invoke Http.unreachable runId args
  IO.print left.output
  IO.eprint left.errors
  return left.status.toUInt32
