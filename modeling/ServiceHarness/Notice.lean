import ServiceHarness.Fault

/-!
# Notices

A `Notice` is one thing that the harness tells its log.  `Notice.level`, `Notice.message`
and `Notice.fields` are the three parts of the log event that tells it.
-/

namespace ServiceHarness

/-- The severity of a log event. -/
inductive Level where
  /-- The run goes on. -/
  | info
  /-- The run goes on although something is amiss. -/
  | warn
  /-- The run has failed. -/
  | error
  deriving DecidableEq, Repr

/-- The value of a log field. -/
inductive FieldValue where
  /-- A number. -/
  | number (n : Int)
  /-- Text, written as it is. -/
  | text (s : String)
  /-- Text, written in quotes. -/
  | quoted (s : String)
  deriving DecidableEq, Repr

/-- Something that is told to the log. -/
inductive Notice where
  /-- A run of so many services begins. -/
  | runStarted (services : Nat)
  /-- The build of a service begins. -/
  | compiling (service : String)
  /-- A service is about to be launched. -/
  | starting (service : String)
  /-- A service was launched. -/
  | launched (service : String) (pid : Nat)
  /-- A test stage begins. -/
  | testing (stage : Stage)
  /-- The workspace tests are left out. -/
  | skippingWorkspace
  /-- The wait for the instance begins. -/
  | awaiting (url : String)
  /-- The instance answered the last of so many probes. -/
  | reachable (url : String) (attempts : Nat)
  /-- A service is about to be interrupted. -/
  | stopping (service : String) (pid : Nat)
  /-- The service to be interrupted had exited. -/
  | hadExited (service : String) (pid : Nat)
  /-- The service could not be interrupted. -/
  | stopFailed (service : String) (pid : Nat) (fault : ProcessFault)
  /-- The supervisor was given up with so many live services. -/
  | abandoned (live : Nat)
  /-- The run failed. -/
  | runFailed (fault : RunFault)
  /-- The run succeeded. -/
  | passed (services attempts : Nat)
  /-- A phase was entered that may not follow the one before it. -/
  | unexpectedPhase (before after : Phase)
  /-- A command ran to its end. -/
  | commandCompleted (command : String) (completion : Completion)
  /-- The leader of a service's group had exited before it was interrupted. -/
  | leaderExited (service : String) (pid : Nat) (exitCode : Int)
  /-- The program begins. -/
  | programStarted (version : String) (services : Nat) (directory : String)
  /-- The operator interrupted the program. -/
  | interruptReceived
  deriving DecidableEq, Repr

namespace Notice

/-- The severity of a notice. -/
def level : Notice → Level
  | .hadExited .. => .warn
  | .stopFailed .. => .warn
  | .abandoned .. => .warn
  | .unexpectedPhase .. => .warn
  | .interruptReceived => .warn
  | .runFailed .. => .error
  | _ => .info

/-- The message of a notice. -/
def message : Notice → String
  | .runStarted _ => "Starting test run"
  | .compiling service => s!"Compiling {service}..."
  | .starting service => s!"Starting {service}..."
  | .launched .. => "Service launched"
  | .testing .workspaceTests => "Testing workspace..."
  | .testing stage => s!"Running {stage.labelInSentence} tests..."
  | .skippingWorkspace => "Skipping workspace tests"
  | .awaiting _ => "Waiting for the instance to come up..."
  | .reachable .. => "Instance is reachable"
  | .stopping service _ => s!"Stopping {service}..."
  | .hadExited .. => "Service had already exited"
  | .stopFailed .. => "Failed to stop service"
  | .abandoned _ => "Supervisor dropped with live services, tearing down"
  | .runFailed _ => "Run failed"
  | .passed .. => "All tests passed"
  | .unexpectedPhase .. => "Unexpected state transition"
  | .commandCompleted .. => "Subprocess execution completed"
  | .leaderExited .. => "Service leader exited before teardown"
  | .programStarted .. => "Testbed starting"
  | .interruptReceived => "Interrupt received, stopping services..."

/-- The fields of a notice, in the order in which they are written. -/
def fields : Notice → List (String × FieldValue)
  | .runStarted services => [("services", .number services)]
  | .compiling service => [("service", .text service)]
  | .starting service => [("service", .text service)]
  | .launched service pid => [("service", .text service), ("pid", .number pid)]
  | .testing _ => []
  | .skippingWorkspace => []
  | .awaiting url => [("url", .text url)]
  | .reachable url attempts => [("url", .text url), ("attempts", .number attempts)]
  | .stopping service pid => [("service", .text service), ("pid", .number pid)]
  | .hadExited service pid => [("service", .text service), ("pid", .number pid)]
  | .stopFailed service pid fault =>
    [("service", .text service), ("pid", .number pid), ("error", .text fault.message)]
  | .abandoned live => [("live", .number live)]
  | .runFailed fault => [("error", .text fault.message), ("exit_code", .number fault.exitStatus)]
  | .passed services attempts =>
    [("services", .number services), ("probe_attempts", .number attempts)]
  | .unexpectedPhase before after =>
    [("from", .text before.identifier), ("to", .text after.identifier)]
  | .commandCompleted command completion =>
    [("command", .text command), ("duration_ms", .text (toString completion.millis)),
      ("exit_code", .text (toString completion.exitCode))]
  | .leaderExited service pid exitCode =>
    [("service", .text service), ("pid", .text (toString pid)), ("exit_code", .number exitCode)]
  | .programStarted version services directory =>
    [("version", .quoted version), ("services", .number services), ("workdir", .text directory)]
  | .interruptReceived => []

end Notice

end ServiceHarness
