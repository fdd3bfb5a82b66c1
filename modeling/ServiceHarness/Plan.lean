import ServiceHarness.Service

/-!
# Plans

A `Plan` is everything that controls a run.  `Plan.validate` refuses a plan that cannot
make a meaningful run and tells the first defect it finds; `Plan.buildPatch`,
`Plan.servicePatch`, `Plan.workspaceTestPatch` and `Plan.integrationTestPatch` are the
changes to the environment of the commands of each stage.
-/

namespace ServiceHarness

/-- What controls a run. -/
structure Plan where
  /-- The services, in the order in which they are built and launched. -/
  services : List Service := ["oprish", "pandemonium", "effis"].map Service.cargo
  /-- What becomes of the output of the commands. -/
  output : Output := .suppressed
  /-- Whether the workspace tests are run. -/
  workspaceTests : Bool := true
  /-- The URL that answers once the instance is up. -/
  url : String := "http://0.0.0.0:7159"
  /-- The path of the configuration that the services are given. -/
  confPath : String := "tests/Eludris.toml"
  /-- The variable in which they are given it. -/
  confVariable : String := "ELUDRIS_CONF"
  /-- The directory in which every command runs. -/
  directory : String := "."
  /-- The milliseconds between two probes. -/
  interval : Nat := 1000
  /-- The command of the workspace tests. -/
  workspaceTest : Command := Command.cargo ["test"]
  /-- The command of the integration tests. -/
  integrationTest : Command := Command.cargo ["run", "-p", "integration-tests"]
  deriving DecidableEq

namespace Plan

/-- The variable that filters the logs of services and tests. -/
def logVariable : String :=
  "RUST_LOG"

/-- The log filter of builds, services and workspace tests whose output is shown. -/
def streamedLog : String :=
  "debug"

/-- The log filter of the integration tests. -/
def integrationLog : String :=
  "integration_tests=debug"

/-- The package that holds the integration tests. -/
def integrationPackage : String :=
  "integration-tests"

/-- The milliseconds after which a single probe gives up. -/
def probeTimeout : Nat :=
  5000

/-- The version of the program. -/
def version : String :=
  "0.1.0"

/-- The first name that stands again after it has stood before, where the names of `seen`
have stood already. -/
def firstRepeated (seen : List String) : List String → Option String
  | [] => none
  | name :: rest => if name ∈ seen then some name else firstRepeated (name :: seen) rest

/-- The first defect of a plan, if it has one. -/
def defect? (p : Plan) : Option Defect :=
  if p.services.isEmpty then some (.broken .serviceDeclared)
  else match firstRepeated [] (p.services.map Service.name) with
    | some name => some (.duplicateService name)
    | none =>
      if Text.isBlankText p.url then some (.broken .urlGiven)
      else if Text.isBlankText p.confVariable then some (.broken .variableNamed)
      else if p.interval == 0 then some (.broken .intervalPositive)
      else none

/-- Refuses a plan with a defect. -/
def validate (p : Plan) : Except Defect Unit :=
  match p.defect? with
  | some d => .error d
  | none => .ok ()

/-- The changes for a build: the log filter alone. -/
def buildPatch (p : Plan) : Patch :=
  match p.output with
  | .suppressed => Patch.empty.withdraw logVariable
  | .streamed => Patch.empty.assign logVariable streamedLog

/-- The changes for a service: the log filter and the configuration path. -/
def servicePatch (p : Plan) : Patch :=
  p.buildPatch.assign p.confVariable p.confPath

/-- The changes for the workspace tests, which see what the services see. -/
def workspaceTestPatch (p : Plan) : Patch :=
  p.servicePatch

/-- The changes for the integration tests, which log whatever the output mode. -/
def integrationTestPatch (p : Plan) : Patch :=
  p.servicePatch.assign logVariable integrationLog

/-- The invocation of a command under the plan. -/
def invocation (p : Plan) (command : Command) (patch : Patch) : Invocation :=
  ⟨command, patch, p.output, p.directory⟩

/-- The invocation that builds a service. -/
def buildInvocation (p : Plan) (service : Service) : Invocation :=
  p.invocation service.build p.buildPatch

/-- The invocation that runs a service. -/
def runInvocation (p : Plan) (service : Service) : Invocation :=
  p.invocation service.run p.servicePatch

/-- The invocation of the workspace tests. -/
def workspaceTestInvocation (p : Plan) : Invocation :=
  p.invocation p.workspaceTest p.workspaceTestPatch

/-- The invocation of the integration tests. -/
def integrationTestInvocation (p : Plan) : Invocation :=
  p.invocation p.integrationTest p.integrationTestPatch

end Plan

end ServiceHarness
