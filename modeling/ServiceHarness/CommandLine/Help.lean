import ServiceHarness.CommandLine.Basic

/-!
# Help

The text `helpText` that tells how the program is used, a line for every option, and the text
`versionLine`.
-/

namespace ServiceHarness.CommandLine

/-- The name of the program. -/
def program : String :=
  "testbed"

/-- What the value of a key is called. -/
def Key.placeholder : Key → String
  | .url => "INSTANCE_URL"
  | .service => "NAME"
  | .conf => "PATH"
  | .config => "PATH"
  | .directory => "DIR"
  | .interval => "MS"

/-- The variable that stands in for a key. -/
def Key.envName? : Key → Option String
  | .url => some urlVariable
  | .config => some configVariable
  | _ => none

/-- What an option is for. -/
def Opt.about : Opt → String
  | .switch .logs => "Stream subprocess output instead of suppressing it"
  | .switch .noWorkspace => "Skip the workspace test stage"
  | .switch .help => "Print help"
  | .switch .version => "Print version"
  | .key .url => "URL polled until the instance is reachable"
  | .key .service => "Service to build and launch (repeatable, order preserved)"
  | .key .conf => "Configuration file handed to the services"
  | .key .config => "Harness file declaring services and commands"
  | .key .directory => "Directory every command runs in (default: current directory)"
  | .key .interval => "Milliseconds between readiness probes"

/-- How an option is written. -/
def Opt.usage : Opt → String
  | .switch .help => "  -h, --help"
  | .switch .version => "  -V, --version"
  | .switch s => s!"      --{s.name}"
  | .key k => s!"      --{k.name} <{k.placeholder}>"

/-- What is told of the variable that stands in for an option, with its value. -/
def Opt.envNote (env : Environment) : Opt → String
  | .switch _ => ""
  | .key k =>
    match k.envName? with
    | none => ""
    | some name =>
      let value := (env.get? name).getD ""
      s!" [env: {name}={value}]"

/-- The text followed by blanks up to a width. -/
def padTo (width : Nat) (s : String) : String :=
  s ++ String.ofList (List.replicate (width - s.length) ' ')

/-- The column in which it is told what options are for, two behind the widest option. -/
def aboutColumn : Nat :=
  (Opt.all.map fun o => o.usage.length).foldl max 0 + 2

/-- The line of an option: what it is for, further lines of which begin in the same column. -/
def Opt.line (env : Environment) (o : Opt) : String :=
  let about := o.about ++ o.envNote env
  padTo aboutColumn o.usage ++ ("\n" ++ padTo aboutColumn "").intercalate (about.splitOn "\n")

/-- How the program is used. -/
def helpText (env : Environment) : String :=
  "Build, launch and test the service workspace\n\n" ++
    s!"Usage: {program} [OPTIONS]\n\nOptions:\n" ++
    String.join (Opt.all.map fun o => o.line env ++ "\n")

/-- The version of the program. -/
def versionLine : String :=
  s!"{program} {Plan.version}\n"

/-- What is shown when the program stops; how it words a refusal is left open. -/
def Halt.text (env : Environment) : Halt → Option String
  | .help => some (helpText env)
  | .version => some versionLine
  | .refused _ => none

end ServiceHarness.CommandLine
