import ServiceHarness.CommandLine.Outcome
import ServiceHarness.Executor
import ServiceHarness.Http.Probe
import ServiceHarness.Launcher
import ServiceHarness.Log.Line
import ServiceHarness.Machine.Account
import ServiceHarness.Machine.Host

/-!
# Stations

A `Station` is a host on which the program runs, with an operator in front of it.  Its ports
execute commands and launch services as processes of the host.  The operator interrupts the run
once a file has been filled, or when he has waited long enough for that.  `Station.invoke` runs
the program and tells what it leaves behind: the exit status, what was put out and the files.
-/

namespace ServiceHarness

/-- Something that appears on the output. -/
inductive Shown where
  /-- A process has put out a text. -/
  | text (s : String)
  /-- The log has been told a notice. -/
  | notice (n : Notice)
  /-- The log has been told something else. -/
  | detail (r : Log.Record)
  deriving DecidableEq, Repr

/-- A host with an operator, and what has appeared during each call of a port that has come to
its end. -/
structure Station where
  /-- The launcher, with the host as its kernel. -/
  launcher : Launcher Host
  /-- The file on which the operator waits to interrupt the run. -/
  signalFile : Option String := none
  /-- What has appeared during each call. -/
  shown : List (List Shown) := []
  /-- How many characters of the output have been accounted for. -/
  accounted : Nat := 0

namespace Station

/-- The host. -/
def host (s : Station) : Host :=
  s.launcher.kernel

/-- The station with another host. -/
def withHost (s : Station) (h : Host) : Station :=
  { s with launcher := { s.launcher with kernel := h } }

/-- The milliseconds for which the operator waits on his file. -/
def patience : Nat :=
  3000

/-- Whether the operator interrupts the run. -/
def interrupts (s : Station) (m : Machine) : Bool :=
  match s.signalFile with
  | some file => Host.isFilled s.host.directory file m || patience * 1000 ≤ m.now
  | none => false

/-- The station at an instant in milliseconds. -/
def advance (s : Station) (now : Nat) : Station :=
  s.withHost (s.host.runTo (fun _ => false) (max s.host.machine.now (now * 1000)))

/-- The milliseconds from an instant to that of the host, rounded up. -/
def since (s : Station) (now : Nat) : Nat :=
  s.host.millis - now

/-- The station after a call, during which the log has been told something. -/
def account (s : Station) (notices : List Notice) : Station :=
  let output := s.host.machine.output
  let news := (output.drop s.accounted).toString
  let texts := if news = "" then [] else [Shown.text news]
  { s with shown := s.shown ++ [texts ++ notices.map Shown.notice], accounted := output.length }

/-- The station as a kernel.  Where the operator interrupts the run a command goes on, and nothing is
expected of it any more. -/
def kernel : Kernel Station :=
  { Host.kernel.within host withHost with
    await := fun s pid => (s.host.await s.interrupts pid).within s.withHost }

/-- Executes a command. -/
def execute (s : Station) (now : Nat) (i : Invocation) :
    Activity Station (Except ProcessFault Completion) :=
  (Executor.run kernel (s.advance now) i).bind fun s (result, notices) =>
    .finish (s.account notices) result

/-- Launches a service. -/
def launch (s : Station) (now : Nat) (service : String) (i : Invocation) :
    Reply Station Handle :=
  let s := s.advance now
  let (result, launcher) := s.launcher.launch Host.kernel service i
  { state := { s with launcher }, result }

/-- Interrupts a service. -/
def interrupt (s : Station) (now : Nat) (handle : Handle) :
    Reply Station SignalOutcome :=
  let s := s.advance now
  let ((result, notices), launcher) := s.launcher.interrupt Host.kernel handle
  { state := { s with launcher }.account notices, result }

/-- Probes a URL on a network.  If the operator is going to interrupt the run before the next
probe is due, he does so during this one. -/
def probe (network : Http.Network) (interval : Nat) (s : Station) (now : Nat) (url : String) :
    Activity Station (Except ProbeFault Unit) :=
  let s := s.advance now
  let outcome := Http.probe network url
  match outcome with
  | .error (.notReady _) =>
    let ahead := s.withHost (s.host.run s.interrupts interval)
    if s.interrupts ahead.host.machine then
      Activity.after (ahead.since now) ahead (.raise (.finish ahead outcome))
    else .finish s outcome
  | _ => .finish s outcome

/-- The ports of a station for a plan. -/
def ports (network : Http.Network) (plan : Plan) : Ports Station where
  execute := execute
  launch := launch
  interrupt := interrupt
  probe := probe network plan.interval

/-! ### What is left behind -/

/-- What appeared because of an event: what of the `calls` belongs to it, and what the log is told
beside it. -/
def because (detail : List Shown) : Event → List (List Shown) → List Shown × List (List Shown)
  | .noticed n, calls => ([.notice n], calls)
  | .executed _, call :: calls => (call ++ detail, calls)
  | .interrupted .., call :: calls => (call ++ detail, calls)
  | _, calls => (detail, calls)

/-- What appeared during a run of a plan, in order: that of each call where its end is
recorded. -/
def appeared (url : String) (d : Log.Details) : List Event → List (List Shown) → List Shown
  | [], calls => calls.flatten
  | e :: events, calls =>
    let d := d.after e
    let (shown, calls) := because ((d.record? url e).map Shown.detail).toList e calls
    shown ++ appeared url d events calls

/-- The events with the interrupt of the operator before the failure that it brought. -/
def tellInterrupt : List Event → List Event
  | [] => []
  | .entered .failed :: rest => .noticed .interruptReceived :: .entered .failed :: rest
  | e :: rest => e :: tellInterrupt rest

/-- The line by which something that appeared during a run is told. -/
def shownText (filter : Log.Filter) (runId : String) : Shown → String
  | .text t => t
  | .notice .interruptReceived => (Log.line? filter none Notice.interruptReceived.record).getD ""
  | .notice n => (Log.line? filter (some runId) n.record).getD ""
  | .detail r => (Log.line? filter (some runId) r).getD ""

/-- What the program leaves behind. -/
structure Remains where
  /-- The exit status. -/
  status : Nat
  /-- What was put out. -/
  output : String
  /-- What was put out as errors. -/
  errors : String
  /-- The host. -/
  host : Host

/-- The instant at which a run is given up that nobody interrupts. -/
def givenUpAt : Nat :=
  3600000

/-- Runs the program on a station with arguments. -/
def invoke (s : Station) (network : Http.Network) (runId : String) (args : List String) :
    Remains :=
  let environment := s.host.environment
  let site : CommandLine.Site :=
    { environment, files := s.host.machine.files, directory := s.host.directory
      userHome := some Account.root.home }
  let filter := Log.Filter.ofValue (environment.get? Log.filterVariable)
  let outcome := CommandLine.execute (fun plan => .ok (ports network plan))
    { dropAt := givenUpAt } runId site args s
  let started (plan : Plan) : String :=
    let notice := Notice.programStarted Plan.version plan.services.length plan.directory
    (Log.line? filter none notice.record).getD ""
  let failure :=
    (outcome.failure.bind fun message => Log.line? filter none (Log.failure message)).getD ""
  match outcome with
  | .halted halt =>
    { status := outcome.exitStatus, host := s.host, output := (halt.text environment).getD ""
      errors := "" }
  | .refused _ => { status := outcome.exitStatus, host := s.host, errors := "", output := failure }
  | .unequipped plan _ =>
    { status := outcome.exitStatus, host := s.host, errors := "", output := started plan ++ failure }
  | .ended plan result =>
    let s := result.world.ports.account []
    let events := result.world.trace.toList
    let events := if result.world.raised then tellInterrupt events else events
    let shown := (appeared plan.url {} events s.shown).map (shownText filter runId)
    { status := outcome.exitStatus
      host := s.host
      output := started plan ++ String.join shown ++ outcome.closing.getD ""
      errors := s.host.machine.errors ++ outcome.complaint.getD "" }

end Station

end ServiceHarness
