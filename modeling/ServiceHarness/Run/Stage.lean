import ServiceHarness.Plan
import ServiceHarness.Session.Basic

/-!
# Running a stage

`begin` starts the command of a stage: it tells the log and calls the executor.
`stage` runs it within a run, against the stop signal, and turns what does not succeed into
a fault: a stage that the signal overtakes, or that ends with a code other than zero once the
signal is raised, was interrupted.
-/

namespace ServiceHarness.Run

variable {σ : Type}

/-- Tells the log about a stage and begins to execute its command. -/
def begin (P : Ports σ) (n : Notice) (invocation : Invocation) :
    Session σ (Activity σ (Except ProcessFault Completion)) := do
  Session.tell n
  Session.record (.executing invocation)
  let w ← get
  return P.execute w.ports w.now invocation

/-- Runs a command of the phase against the stop signal.  It has to succeed: `failure` is the
fault that an exit code other than zero makes. -/
def stage (P : Ports σ) (c : Controls) (phase : Phase) (n : Notice) (invocation : Invocation)
    (failure : Int → RunFault) : Attempt σ Unit := do
  match ← (Session.race c (begin P n invocation) >>= Session.conclude .executed : Session σ _) with
  | none => throw (.interrupted phase)
  | some (.error fault) => throw (.execution fault)
  | some (.ok completion) =>
    if completion.succeeded then pure ()
    else if ← (Session.isRaised : Session σ Bool) then throw (.interrupted phase)
    else throw (failure completion.exitCode)

/-- Builds a service. -/
def build (P : Ports σ) (c : Controls) (plan : Plan) (service : Service) : Attempt σ Unit :=
  stage P c .building (.compiling service.name) (plan.buildInvocation service)
    (.buildFailed service.name)

/-- Runs the workspace tests. -/
def workspaceTests (P : Ports σ) (c : Controls) (plan : Plan) : Attempt σ Unit :=
  stage P c .workspaceTesting (.testing .workspaceTests) plan.workspaceTestInvocation
    (.testsFailed .workspaceTests)

/-- Runs the integration tests. -/
def integrationTests (P : Ports σ) (c : Controls) (plan : Plan) : Attempt σ Unit :=
  stage P c .integrationTesting (.testing .integrationTests) plan.integrationTestInvocation
    (.testsFailed .integrationTests)

end ServiceHarness.Run
