/-!
# Stages

The stages `Stage` in which a run executes a command and waits for it, and the
`Completion` of such a command: its exit code and how long it took.
-/

namespace ServiceHarness

/-- A stage that executes commands to completion. -/
inductive Stage where
  /-- Building a service. -/
  | build
  /-- The tests of the workspace. -/
  | workspaceTests
  /-- The tests against the running instance. -/
  | integrationTests
  deriving DecidableEq, Repr

/-- The name of the stage. -/
def Stage.label : Stage → String
  | .build => "Build"
  | .workspaceTests => "Workspace"
  | .integrationTests => "Integration"

/-- The name of the stage within a sentence. -/
def Stage.labelInSentence : Stage → String
  | .build => "build"
  | .workspaceTests => "workspace"
  | .integrationTests => "integration"

/-- How a command ended. -/
structure Completion where
  /-- The exit code; `-n` for a process killed by signal `n`. -/
  exitCode : Int
  /-- The duration in milliseconds. -/
  millis : Int
  deriving DecidableEq, Repr

/-- Only the exit code zero is a success. -/
def Completion.succeeded (c : Completion) : Bool :=
  c.exitCode == 0

end ServiceHarness
