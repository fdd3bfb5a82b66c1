import ServiceHarness.Phase
import ServiceHarness.Stage

/-!
# Faults

What can go wrong, as causes: a `Defect` of a configuration, a `ProcessFault` of starting,
signaling or waiting for a process, a `ProbeFault` of one readiness probe, a `WaitFault`
of a whole readiness wait, and a `RunFault` of a run.  `message` words each of them,
`RunFault.exitStatus` is the exit status it gives the program, and `RunFault.banner` is
the one line that the operator is shown.
-/

namespace ServiceHarness

/-- A rule that a configuration has to keep. -/
inductive Rule where
  /-- A service has a name. -/
  | serviceNamed
  /-- There is a service. -/
  | serviceDeclared
  /-- The instance has a URL. -/
  | urlGiven
  /-- The variable that carries the configuration path has a name. -/
  | variableNamed
  /-- Probes are some time apart. -/
  | intervalPositive
  /-- A rule in words. -/
  | stated (text : String)
  deriving DecidableEq, Repr

/-- What is said to whoever breaks the rule. -/
def Rule.message : Rule → String
  | .serviceNamed => "Service name cannot be empty"
  | .serviceDeclared => "At least one service must be declared"
  | .urlGiven => "Instance URL cannot be empty"
  | .variableNamed => "Configuration variable name cannot be empty"
  | .intervalPositive => "Probe interval must be greater than zero"
  | .stated text => text

/-- A defect of a configuration. -/
inductive Defect where
  /-- The command of `owner` has no program. -/
  | emptyCommand (owner : String)
  /-- Two services have the name `name`. -/
  | duplicateService (name : String)
  /-- A rule is broken. -/
  | broken (rule : Rule)
  deriving DecidableEq, Repr

/-- The wording of a defect. -/
def Defect.message : Defect → String
  | .emptyCommand owner => s!"Command for {owner} is empty"
  | .duplicateService name => s!"Service declared twice: {name}"
  | .broken rule => s!"Validation error: {rule.message}"

/-- A fault of a process. -/
inductive ProcessFault where
  /-- The process could not be started. -/
  | spawn (reason : String)
  /-- A signal could not be delivered. -/
  | signal (reason : String)
  /-- Waiting for the process failed. -/
  | io (reason : String)
  deriving DecidableEq, Repr

/-- The wording of a process fault. -/
def ProcessFault.message : ProcessFault → String
  | .spawn reason => s!"Spawn failed: {reason}"
  | .signal reason => s!"Signal delivery failed: {reason}"
  | .io reason => s!"IO error: {reason}"

/-- A fault of one readiness probe. -/
inductive ProbeFault where
  /-- The instance does not answer yet. -/
  | notReady (reason : String)
  /-- The target is no place that could answer. -/
  | malformed (reason : String)
  deriving DecidableEq, Repr

/-- The wording of a probe fault. -/
def ProbeFault.message : ProbeFault → String
  | .notReady reason => s!"Not ready: {reason}"
  | .malformed reason => s!"Malformed probe target: {reason}"

/-- Whether a later probe may succeed. -/
def ProbeFault.retryable : ProbeFault → Bool
  | .notReady _ => true
  | .malformed _ => false

/-- A fault of a readiness wait. -/
inductive WaitFault where
  /-- The operator interrupted the wait after `attempts` probes. -/
  | interrupted (attempts : Nat)
  /-- A probe found the target malformed. -/
  | malformed (reason : String)
  deriving DecidableEq, Repr

/-- The wording of a wait fault. -/
def WaitFault.message : WaitFault → String
  | .interrupted attempts => s!"Readiness wait interrupted after {attempts} attempts"
  | .malformed reason => reason

/-- Why a run failed. -/
inductive RunFault where
  /-- The configuration is defective; nothing was started. -/
  | configuration (defect : Defect)
  /-- The build of a service ended with a code other than zero. -/
  | buildFailed (service : String) (code : Int)
  /-- A service could not be launched. -/
  | startFailed (service reason : String)
  /-- The tests of a stage ended with a code other than zero. -/
  | testsFailed (stage : Stage) (code : Int)
  /-- The target of the readiness probe was rejected. -/
  | targetRejected (reason : String)
  /-- The operator interrupted the run. -/
  | interrupted (phase : Phase)
  /-- The command of a stage could not be executed. -/
  | execution (fault : ProcessFault)
  deriving DecidableEq, Repr

namespace RunFault

/-- The wording of a run fault. -/
def message : RunFault → String
  | .configuration defect => s!"Invalid configuration: {defect.message}"
  | .buildFailed service code => s!"Failed to compile {service} with error code {code}"
  | .startFailed service reason => s!"Failed to start {service}: {reason}"
  | .testsFailed stage code => s!"{stage.label} tests failed with code {code}"
  | .targetRejected reason => s!"Readiness probe target rejected: {reason}"
  | .interrupted phase => s!"Interrupted while {phase.description}"
  | .execution fault => s!"Execution error: {fault.message}"

/-- The exit status of the program after the fault: two where nothing was started. -/
def exitStatus : RunFault → Nat
  | .configuration _ => 2
  | _ => 1

/-- Whether the output of the commands would show the cause. -/
def shownByLogs : RunFault → Bool
  | .buildFailed .. => true
  | .testsFailed .. => true
  | .execution _ => true
  | _ => false

/-- The advice to look at the output of the commands. -/
def logsHint : String :=
  "Consider running again with `--logs` for more info"

/-- The one line for the operator: the fault, with the advice to look at the output where
that was suppressed and would show the cause. -/
def banner (fault : RunFault) (streamed : Bool) : String :=
  if fault.shownByLogs && !streamed then s!"{fault.message}. {logsHint}" else fault.message

/-- With streamed output the operator is shown the fault alone. -/
@[simp]
theorem banner_streamed (fault : RunFault) :
  fault.banner true = fault.message
  := by
  simp [banner]

end RunFault

end ServiceHarness
