import ServiceHarness.Plan
import ServiceHarness.Session.Basic

/-!
# The supervisor

The supervisor holds the handles of the live services.  `launch` adds one, `teardown`
interrupts all of them in the order of their launching and tells in a `Teardown` what it
found, and `abandon` is the teardown of a supervisor that is given up with live services.
Afterwards no service is live, whatever the launcher answered.
-/

namespace ServiceHarness.Run

variable {σ : Type}

/-- What a teardown found, in the order of the interrupts. -/
structure Teardown where
  /-- The services that were interrupted or had exited. -/
  stopped : List String := []
  /-- The services that had exited. -/
  alreadyExited : List String := []
  /-- The services that could not be interrupted, with the reason. -/
  failed : List (String × String) := []
  deriving DecidableEq, Repr

/-- The number of services that the teardown dealt with. -/
def Teardown.signals (t : Teardown) : Nat :=
  t.stopped.length + t.failed.length

/-- What is found of a handle is put after what was found of those before it. -/
def Teardown.add (t : Teardown) (h : Handle) : Except ProcessFault SignalOutcome → Teardown
  | .ok .delivered => { t with stopped := t.stopped ++ [h.name] }
  | .ok .alreadyExited =>
    { t with stopped := t.stopped ++ [h.name], alreadyExited := t.alreadyExited ++ [h.name] }
  | .error fault => { t with failed := t.failed ++ [(h.name, fault.message)] }

/-- What the log is told of the answer to an interrupt, if anything. -/
def answerNotice (h : Handle) : Except ProcessFault SignalOutcome → Option Notice
  | .ok .delivered => none
  | .ok .alreadyExited => some (.hadExited h.name h.pid)
  | .error fault => some (.stopFailed h.name h.pid fault)

/-- Interrupts the first live service: what the launcher answers, and the world after it. -/
def stop (P : Ports σ) (c : Controls) (h : Handle) (w : World σ) :
    Except ProcessFault SignalOutcome × World σ :=
  let answer := P.interrupt w.ports w.now h
  let w := ((w.tell (.stopping h.name h.pid)).interrupt h answer).raiseIf answer.raises c
  (answer.result, (answerNotice h answer.result).elim w w.tell)

/-- Interrupts the live services one after the other. -/
def stopAll (P : Ports σ) (c : Controls) : List Handle → Teardown → World σ → Teardown × World σ
  | [], t, w => (t, w)
  | h :: rest, t, w =>
    let (answer, w) := stop P c h w
    stopAll P c rest (t.add h answer) w

/-- Interrupts every live service, after which none is live. -/
def teardownWorld (P : Ports σ) (c : Controls) (w : World σ) : Teardown × World σ :=
  stopAll P c w.live {} w

/-- The world after the supervisor has been given up: services that are still live are
interrupted. -/
def abandon (P : Ports σ) (c : Controls) (w : World σ) : World σ :=
  if w.live.isEmpty then w
  else (teardownWorld P c (w.tell (.abandoned w.live.length))).2

/-- Interrupts every live service. -/
def teardown (P : Ports σ) (c : Controls) : Session σ Teardown :=
  modifyGet (teardownWorld P c)

/-- Launches a service and holds its handle; what is told is its process. -/
def launch (P : Ports σ) (c : Controls) (plan : Plan) (service : Service) :
    Session σ (Except ProcessFault Nat) := do
  Session.tell (.starting service.name)
  let w ← get
  let answer := P.launch w.ports w.now service.name (plan.runInvocation service)
  modify (·.launch service.name (plan.runInvocation service) answer)
  modify (World.raiseIf answer.raises c)
  match answer.result with
  | .error fault => return .error fault
  | .ok handle =>
    Session.tell (.launched handle.name handle.pid)
    return .ok handle.pid

end ServiceHarness.Run
