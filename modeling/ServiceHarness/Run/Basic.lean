import ServiceHarness.Run.Readiness
import ServiceHarness.Run.Stage
import ServiceHarness.Run.Supervisor

/-!
# Runs

`perform` is a whole run of a plan: it builds the services, launches them, runs the
workspace tests, waits for the instance and runs the integration tests, and then, however
that went, tears down what it launched.  Its `Result` is the `Verdict` with the world in
which the run ended.  A `Harness` performs one run after another on the same ports and
remembers the phases of the last one.
-/

namespace ServiceHarness.Run

variable {σ : Type}

/-- What is told of a run that succeeded. -/
structure Summary where
  /-- The name of the run. -/
  runId : String
  /-- The launched services, in the order of launching. -/
  services : List String
  /-- The number of probes that the wait took. -/
  attempts : Nat
  /-- What the teardown found. -/
  teardown : Teardown
  deriving DecidableEq, Repr

/-- How a run ended. -/
inductive Verdict where
  /-- All tests passed. -/
  | passed (summary : Summary)
  /-- The run failed. -/
  | failed (fault : RunFault)
  /-- The run was cut short. -/
  | cut (cut : Cut)
  deriving DecidableEq, Repr

/-- The verdict on a run and the world in which it ended. -/
structure Result (σ : Type) where
  /-- The verdict. -/
  verdict : Verdict
  /-- The world in which the run ended. -/
  world : World σ

/-- Launches a service, unless the stop signal is raised. -/
def launchStep (P : Ports σ) (c : Controls) (plan : Plan) (service : Service) :
    Attempt σ Unit := do
  if ← (Session.isRaised : Session σ Bool) then throw (.interrupted .launching)
  match ← (launch P c plan service : Session σ _) with
  | .ok _ => pure ()
  | .error fault => throw (.startFailed service.name fault.message)

/-- The fault of a run whose wait for the instance failed. -/
def faultOfWait : WaitFault → RunFault
  | .interrupted _ => .interrupted .waitingReady
  | .malformed reason => .targetRejected reason

/-- Waits for the instance. -/
def await (P : Ports σ) (c : Controls) (plan : Plan) : Attempt σ Nat := do
  match ← (awaitReady P c plan.url plan.interval : Session σ _) with
  | .ok attempts => return attempts
  | .error fault => throw (faultOfWait fault)

/-- Builds the services, in order. -/
def buildServices (P : Ports σ) (c : Controls) (plan : Plan) : Attempt σ Unit := do
  Session.enter (σ := σ) .building
  plan.services.forM (build P c plan)

/-- Launches the services, in order. -/
def launchServices (P : Ports σ) (c : Controls) (plan : Plan) : Attempt σ Unit := do
  Session.enter (σ := σ) .launching
  plan.services.forM (launchStep P c plan)

/-- Tests the workspace, if the plan wants that. -/
def testWorkspace (P : Ports σ) (c : Controls) (plan : Plan) : Attempt σ Unit := do
  if plan.workspaceTests then
    Session.enter (σ := σ) .workspaceTesting
    workspaceTests P c plan
  else
    Session.tell (σ := σ) .skippingWorkspace

/-- Waits until the instance answers. -/
def awaitInstance (P : Ports σ) (c : Controls) (plan : Plan) : Attempt σ Nat := do
  Session.enter (σ := σ) .waitingReady
  Session.tell (σ := σ) (.awaiting plan.url)
  await P c plan

/-- Tests the running instance. -/
def testInstance (P : Ports σ) (c : Controls) (plan : Plan) : Attempt σ Unit := do
  Session.enter (σ := σ) .integrationTesting
  integrationTests P c plan

/-- The part of a run before its teardown; what is told is the number of probes. -/
def drive (P : Ports σ) (c : Controls) (plan : Plan) : Attempt σ Nat := do
  buildServices P c plan
  launchServices P c plan
  testWorkspace P c plan
  let attempts ← awaitInstance P c plan
  testInstance P c plan
  return attempts

/-- A run of a plan without defects, unless it is cut short. -/
def guarded (P : Ports σ) (c : Controls) (plan : Plan) (runId : String) :
    Session σ (Except RunFault Summary) := do
  Session.tell (.runStarted plan.services.length)
  let outcome ← (drive P c plan).run
  let launched := (← get).live.map Handle.name
  match outcome with
  | .error fault =>
    Session.enter .failed
    Session.tell (.runFailed fault)
  | .ok _ => pure ()
  Session.enter .teardown
  let teardown ← teardown P c
  Session.enter .done
  match outcome with
  | .error fault => return .error fault
  | .ok attempts =>
    Session.tell (.passed launched.length attempts)
    return .ok ⟨runId, launched, attempts, teardown⟩

/-- A run of a plan.  A plan with a defect is refused before anything is begun; a run that
is cut short gives up its supervisor. -/
def perform (P : Ports σ) (c : Controls) (plan : Plan) (runId : String) (ports : σ) :
    Result σ :=
  match plan.defect? with
  | some defect => ⟨.failed (.configuration defect), World.initial c ports⟩
  | none =>
    match (guarded P c plan runId).run (World.initial c ports) with
    | .ok (.ok summary) w => ⟨.passed summary, w⟩
    | .ok (.error fault) w => ⟨.failed fault, w⟩
    | .error cut w => ⟨.cut cut, abandon P c w⟩

/-- Ports on which runs are performed one after the other. -/
structure Harness (σ : Type) where
  /-- The state of the ports. -/
  ports : σ
  /-- The phases of the last run that was begun. -/
  history : List Phase := []

/-- Performs one more run. -/
def Harness.perform (h : Harness σ) (P : Ports σ) (c : Controls) (plan : Plan)
    (runId : String) : Result σ × Harness σ :=
  let r := Run.perform P c plan runId h.ports
  (r, { ports := r.world.ports
        history := if plan.defect?.isSome then h.history else r.world.phases })

/-- Performs runs of a plan one after the other, each under its own controls and name. -/
def Harness.performAll (h : Harness σ) (P : Ports σ) (plan : Plan) :
    List (Controls × String) → List (Result σ)
  | [] => []
  | (c, runId) :: rest =>
    let (r, h) := h.perform P c plan runId
    r :: h.performAll P plan rest

end ServiceHarness.Run
