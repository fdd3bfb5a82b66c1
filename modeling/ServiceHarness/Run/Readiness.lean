import ServiceHarness.Session.Basic

/-!
# Waiting for the instance

`awaitReady` probes a URL until it answers, pausing for a fixed interval after each probe
that finds it not ready.  Nothing limits the number of probes but the stop signal and the
patience of the caller, who drops the wait after it; `patience` gives him enough of it to
let the time of the drop come first.
-/

namespace ServiceHarness.Run

variable {σ : Type}

/-- The largest number of attempts that is told; more are told as so many. -/
def attemptLimit : Nat :=
  UInt32.size - 1

/-- Begins to probe a URL. -/
def beginProbe (P : Ports σ) (url : String) : Session σ (Activity σ (Except ProbeFault Unit)) := do
  Session.record (.probing url)
  let w ← get
  return P.probe w.ports w.now url

/-- Probes the URL until it answers, with so much patience for further probes after so many
attempts. -/
def awaitFrom (P : Ports σ) (c : Controls) (url : String) (interval : Nat) :
    Nat → Nat → Session σ (Except WaitFault Nat)
  | 0, _ => throw .dropped
  | patience + 1, attempts => do
    if ← Session.isRaised then return .error (.interrupted attempts)
    let attempts := min (attempts + 1) attemptLimit
    match ← Session.race c (beginProbe P url) >>= Session.conclude .probed with
    | none => return .error (.interrupted attempts)
    | some (.ok ()) =>
      Session.tell (.reachable url attempts)
      return .ok attempts
    | some (.error (.malformed reason)) =>
      return .error (.malformed (ProbeFault.malformed reason).message)
    | some (.error (.notReady _)) =>
      match ← Session.suspend c (some interval) with
      | .raised => return .error (.interrupted attempts)
      | .elapsed => awaitFrom P c url interval patience attempts

/-- More probes than there are milliseconds until the run is dropped. -/
def patience (c : Controls) : Nat :=
  c.dropAt + 2

/-- Probes the URL until it answers and tells how many attempts that took. -/
def awaitReady (P : Ports σ) (c : Controls) (url : String) (interval : Nat) :
    Session σ (Except WaitFault Nat) :=
  awaitFrom P c url interval (patience c) 0

end ServiceHarness.Run
