/-!
# Phases of a run

The phases `Phase` that a run goes through, and the relation `Phase.mayPrecede` between
a phase and the one that may come next.  A run that succeeds builds, launches, perhaps
runs the workspace tests, waits for the instance, runs the integration tests, tears down
and is done; from each of the phases before the teardown it may fail instead.
-/

namespace ServiceHarness

/-- A phase of a run. -/
inductive Phase where
  /-- Building the services. -/
  | building
  /-- Launching the services. -/
  | launching
  /-- Running the workspace tests. -/
  | workspaceTesting
  /-- Waiting until the instance answers. -/
  | waitingReady
  /-- Running the integration tests. -/
  | integrationTesting
  /-- The run has failed and nothing is torn down yet. -/
  | failed
  /-- Stopping the launched services. -/
  | teardown
  /-- Nothing is left to do. -/
  | done
  deriving DecidableEq, Repr

namespace Phase

/-- Whether `next` may follow `phase`. -/
def mayPrecede (phase next : Phase) : Bool :=
  match phase, next with
  | .building, .launching => true
  | .launching, .workspaceTesting => true
  | .launching, .waitingReady => true
  | .workspaceTesting, .waitingReady => true
  | .waitingReady, .integrationTesting => true
  | .integrationTesting, .teardown => true
  | .failed, .teardown => true
  | .teardown, .done => true
  | .teardown, .failed => false
  | .done, .failed => false
  | .failed, .failed => false
  | _, .failed => true
  | _, _ => false

/-- What a run in this phase is doing, as it is told to the operator. -/
def description : Phase → String
  | .building => "building services"
  | .launching => "launching services"
  | .workspaceTesting => "running workspace tests"
  | .waitingReady => "waiting for the instance"
  | .integrationTesting => "running integration tests"
  | .failed => "failing"
  | .teardown => "tearing down"
  | .done => "done"

/-- The identifier of the phase in log fields. -/
def identifier : Phase → String
  | .building => "Building"
  | .launching => "Launching"
  | .workspaceTesting => "WorkspaceTesting"
  | .waitingReady => "WaitingReady"
  | .integrationTesting => "IntegrationTesting"
  | .failed => "Failed"
  | .teardown => "Teardown"
  | .done => "Done"

end Phase

end ServiceHarness
