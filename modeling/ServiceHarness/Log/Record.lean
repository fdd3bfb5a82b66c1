import ServiceHarness.Session.Basic

/-!
# Log records

A `Record` is one thing that a log tells: where it comes from, how much it matters, a message and
fields.  Every notice is told by a record, and so is the beginning of a program that fails;
`Details.records` adds what is told of the other events of a run to those who look closer.
-/

namespace ServiceHarness

namespace Log

/-- How far down in the log something stands. -/
inductive Depth where
  /-- What failed. -/
  | error
  /-- What is amiss. -/
  | warn
  /-- What happens. -/
  | info
  /-- How it happens. -/
  | debug
  deriving DecidableEq, Repr

/-- The number of a depth, from the highest one on. -/
def Depth.number : Depth → Nat
  | .error => 1
  | .warn => 2
  | .info => 3
  | .debug => 4

/-- The depth of a level. -/
def Depth.ofLevel : Level → Depth
  | .error => .error
  | .warn => .warn
  | .info => .info

/-- One thing that the log tells. -/
structure Record where
  /-- The part of the program that it comes from. -/
  origin : String
  /-- How far down it stands. -/
  depth : Depth
  /-- The message. -/
  message : String
  /-- The fields. -/
  fields : List (String × FieldValue) := []
  deriving DecidableEq, Repr

/-- The names of the fields of a record, the first of which is the message itself. -/
def Record.fieldNames (r : Record) : List String :=
  "message" :: r.fields.map (·.1)

/-- The origin of what concerns the program as a whole. -/
def programOrigin : String :=
  "testbed"

/-- The origin of what concerns the course of a run. -/
def runOrigin : String :=
  "testbed_core::application::orchestrator"

/-- The origin of what concerns a build. -/
def buildOrigin : String :=
  "testbed_core::application::build"

/-- The origin of what concerns the live services. -/
def supervisorOrigin : String :=
  "testbed_core::application::supervisor"

/-- The origin of what concerns a test stage. -/
def testOrigin : String :=
  "testbed_core::application::test_stage"

/-- The origin of what concerns the wait for the instance. -/
def readinessOrigin : String :=
  "testbed_core::application::readiness"

/-- The origin of what concerns the processes of commands. -/
def executorOrigin : String :=
  "testbed_infra_system::subprocess_executor"

/-- The origin of what concerns the processes of services. -/
def launcherOrigin : String :=
  "testbed_infra_system::process_group_launcher"

/-- The record of the failure of a program that has not begun. -/
def failure (message : String) : Record :=
  { origin := programOrigin, depth := .error, message }

end Log

namespace Notice

open Log

/-- The part of the program that tells a notice. -/
def origin : Notice → String
  | .programStarted .. | .interruptReceived => programOrigin
  | .compiling .. => buildOrigin
  | .starting .. | .launched .. | .stopping .. | .hadExited .. | .stopFailed .. | .abandoned .. =>
    supervisorOrigin
  | .testing .. => testOrigin
  | .reachable .. => readinessOrigin
  | .commandCompleted .. => executorOrigin
  | .leaderExited .. => launcherOrigin
  | .runStarted .. | .skippingWorkspace | .awaiting .. | .runFailed .. | .passed .. =>
    runOrigin
  | .unexpectedPhase .. => runOrigin

/-- The record that tells a notice. -/
def record (n : Notice) : Record where
  origin := n.origin
  depth := .ofLevel n.level
  message := n.message
  fields := n.fields

end Notice

namespace Log

/-- What has to be known of the events before one to tell about it. -/
structure Details where
  /-- What the log has been told last about a stage. -/
  stage : Option Notice := none
  /-- The number of probes. -/
  probes : Nat := 0

namespace Details

/-- What is known after one more event. -/
def after (d : Details) : Event → Details
  | .noticed (.compiling service) => { d with stage := some (.compiling service) }
  | .noticed (.testing stage) => { d with stage := some (.testing stage) }
  | .probing _ => { d with probes := d.probes + 1 }
  | _ => d

/-- The text of what becomes of output. -/
def outputText : Output → String
  | .suppressed => "Suppressed"
  | .streamed => "Streamed"

/-- The record of a stage whose command has ended. -/
def finished (c : Completion) : Notice → Option Record
  | .compiling service =>
    some { origin := buildOrigin, depth := .debug, message := "Build finished"
           fields := [("service", .text service), ("exit_code", .number c.exitCode),
             ("duration_ms", .number c.millis)] }
  | .testing stage =>
    some { origin := testOrigin, depth := .debug, message := "Test stage finished"
           fields := [("stage", .text stage.label), ("exit_code", .number c.exitCode),
             ("duration_ms", .number c.millis)] }
  | _ => none

/-- The record of an event beside the notices, if there is one. -/
def record? (d : Details) (url : String) : Event → Option Record
  | .entered phase =>
    some { origin := runOrigin, depth := .debug, message := "State transition"
           fields := [("state", .text phase.identifier)] }
  | .executing i =>
    some { origin := executorOrigin, depth := .debug, message := "Starting subprocess execution"
           fields := [("command", .text i.command.text), ("working_dir", .text i.directory),
             ("output", .text (outputText i.output))] }
  | .executed (.ok completion) => d.stage.bind (finished completion)
  | .launched service i (.ok handle) =>
    some { origin := launcherOrigin, depth := .debug, message := "Spawned service process group"
           fields := [("service", .text service), ("pid", .number handle.pid),
             ("command", .text i.command.text)] }
  | .probed (.error (.notReady reason)) =>
    some { origin := readinessOrigin, depth := .debug, message := "Instance not ready yet"
           fields := [("url", .text url), ("attempts", .number d.probes),
             ("reason", .text (ProbeFault.notReady reason).message)] }
  | .interrupted handle (.ok .delivered) =>
    some { origin := launcherOrigin, depth := .debug, message := "Sent SIGINT to process group"
           fields := [("pgid", .number handle.pid)] }
  | _ => none

end Details

end Log

end ServiceHarness
