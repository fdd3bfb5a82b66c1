import ServiceHarness.Plan

/-!
# Settings

What the operator asks for: the `Flags` of the command line and the `Manifest` that a harness
file declares.  `resolve` makes a plan of both at a `Site`: a flag comes before the manifest
and the manifest before the defaults, value by value.  A `Settings.Fault` is the first thing
that stands in the way of a plan.
-/

namespace ServiceHarness.Settings

/-- The values given on the command line. -/
structure Flags where
  /-- Whether the output of commands is shown. -/
  logs : Bool := false
  /-- Whether the workspace tests are left out. -/
  noWorkspace : Bool := false
  /-- The URL of the instance. -/
  url : Option String := none
  /-- The names of the services. -/
  services : List String := []
  /-- The path of the configuration that the services are given. -/
  conf : Option String := none
  /-- The directory in which every command runs. -/
  directory : Option String := none
  /-- The milliseconds between two probes. -/
  interval : Option Nat := none
  deriving DecidableEq, Repr

/-- The values declared by a harness file. -/
structure Manifest where
  /-- The services. -/
  services : List Declaration := []
  /-- The URL of the instance. -/
  url : Option String := none
  /-- The path of the configuration that the services are given. -/
  confPath : Option String := none
  /-- The variable in which they are given it. -/
  confVariable : Option String := none
  /-- The milliseconds between two probes. -/
  interval : Option Nat := none
  /-- The words of the command of the workspace tests. -/
  workspaceTest : Option (List String) := none
  /-- The words of the command of the integration tests. -/
  integrationTest : Option (List String) := none
  deriving DecidableEq, Repr

/-- Why there is no plan. -/
inductive Fault where
  /-- The harness file at `path` cannot be read, for the given reason if one is told. -/
  | unreadable (path : String) (reason : Option String)
  /-- The harness file at `path` does not declare what it should. -/
  | invalid (path reason : String)
  /-- The path refers to a variable that has no value. -/
  | unexpandable (path name : String)
  /-- The current directory cannot be read, for the given reason. -/
  | adrift (reason : String)
  /-- The configuration has a defect. -/
  | defective (defect : Defect)
  deriving DecidableEq, Repr

/-- The wording of a fault. -/
def Fault.message : Fault → String
  | .unreadable path none => s!"Failed to read harness file {path}"
  | .unreadable path (some reason) => s!"Failed to read harness file {path}: {reason}"
  | .invalid path reason => s!"Invalid harness file {path}: {reason}"
  | .unexpandable path name =>
    let cause := "environment variable not found"
    s!"Failed to expand path {path}: error looking key '{name}' up: {cause}: {cause}"
  | .adrift reason => s!"Failed to read the current directory: {reason}"
  | .defective defect => defect.message

/-- Where a plan is made. -/
structure Site where
  /-- What becomes of a path with variables, or the variable that has no value. -/
  expand : String → Except String String
  /-- The current directory, or why it cannot be read. -/
  directory : Except String String

/-- The expanded path. -/
def Site.path (site : Site) (path : String) : Except Fault String :=
  (site.expand path).mapError (.unexpandable path)

/-- The value without the blanks at its ends, if anything is left of it. -/
def filled (value : Option String) : Option String :=
  (value.map Text.trim).filter fun s => !s.isEmpty

/-- The services of a plan: those named by flags, each as the manifest declares it first or
else as a package of the workspace; without flags those of the manifest, and the default ones
if it declares none. -/
def effectiveServices (flags : Flags) (declared : List Service) : List Service :=
  if flags.services.isEmpty then
    if declared.isEmpty then ({} : Plan).services else declared
  else
    flags.services.map fun name =>
      (declared.find? fun s => s.name == name).getD (Service.cargo name)

/-- The command of `argv` if it is given and `default` if not. -/
def commandOr (owner : String) (default : Command) (argv : Option (List String)) :
    Except Fault Command :=
  (Declaration.commandOr owner default argv).mapError .defective

/-- The plan of the flags and the manifest, or the first thing that stands in its way. -/
def resolve (site : Site) (flags : Flags) (file : Manifest) : Except Fault Plan := do
  let defaults : Plan := {}
  let declared ← (file.services.mapM Declaration.service).mapError .defective
  let confPath ← match flags.conf <|> file.confPath with
    | some path => site.path path
    | none => .ok defaults.confPath
  let workspaceTest ← commandOr "workspace tests" defaults.workspaceTest file.workspaceTest
  let integrationTest ←
    commandOr "integration tests" defaults.integrationTest file.integrationTest
  let directory ← match flags.directory with
    | some path => site.path path
    | none => site.directory.mapError .adrift
  let plan : Plan :=
    { services := effectiveServices flags declared
      output := Output.ofLogs flags.logs
      workspaceTests := !flags.noWorkspace
      url := (filled flags.url <|> filled file.url).getD defaults.url
      confPath := confPath
      confVariable := (filled file.confVariable).getD defaults.confVariable
      directory := directory
      interval := (flags.interval <|> file.interval).getD defaults.interval
      workspaceTest := workspaceTest
      integrationTest := integrationTest }
  plan.validate.mapError .defective
  return plan

end ServiceHarness.Settings
