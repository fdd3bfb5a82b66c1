import ServiceHarness.Session.Ports

/-!
# Scripted ports

Ports that play a `Script`: for each command, service and probe a rule says how the call
goes.  A command, service or probe without a rule succeeds at once.  The `Scripted.Record`
is their state, and remembers what reached them.
-/

namespace ServiceHarness.Scripted

/-- How a call goes before its outcome. -/
structure Course where
  /-- The milliseconds that the call takes first. -/
  delay : Nat := 0
  /-- Whether it then raises the stop signal of the run. -/
  raises : Bool := false
  /-- The milliseconds that it takes after that. -/
  postDelay : Nat := 0
  /-- Whether it panics in the end. -/
  panics : Bool := false
  deriving DecidableEq, Repr

/-- The activity that takes the given course and then goes on with `rest`. -/
def Course.activity {σ α : Type} (c : Course) (state : σ) (rest : Activity σ α) :
    Activity σ α :=
  Activity.after c.delay state <| Activity.raisingIf c.raises <|
    Activity.after c.postDelay state <| if c.panics then .panic state else rest

/-- The outcome of executing a command. -/
inductive CommandOutcome where
  /-- The executor fails before it gets to the command. -/
  | fault (fault : ProcessFault)
  /-- The command exits with a code. -/
  | exits (code : Int)
  /-- The command cannot be started. -/
  | spawnFails (reason : String)
  /-- The command never ends. -/
  | hangs
  deriving DecidableEq, Repr

/-- How the execution of a command goes. -/
structure CommandRule where
  /-- The course of the call. -/
  course : Course := {}
  /-- Its outcome. -/
  outcome : CommandOutcome := .exits 0
  deriving DecidableEq, Repr

/-- How the launch and the interrupt of a service go. -/
structure ServiceRule where
  /-- Whether the launch raises the stop signal of the run. -/
  raises : Bool := false
  /-- The reason for which the launch fails before it gets to the service. -/
  ioFault : Option String := none
  /-- Whether the launch fails. -/
  fails : Bool := false
  /-- Whether the service exits before it is interrupted. -/
  exits : Bool := false
  /-- The reason for which the interrupt cannot be delivered. -/
  signalFault : Option String := none
  deriving DecidableEq, Repr

/-- How a probe goes. -/
structure ProbeRule where
  /-- The course of the probe. -/
  course : Course := {}
  /-- Its outcome. -/
  outcome : Except ProbeFault Unit := .ok ()

/-- How all probes go. -/
inductive Probes where
  /-- So many are not ready, then all succeed. -/
  | readyAfter (failures : Nat)
  /-- None is ever ready. -/
  | never
  /-- All find the target malformed. -/
  | malformed (reason : String)
  /-- Each has a rule, the last one for all that follow. -/
  | each (rules : List ProbeRule)

/-- How all calls go. -/
structure Script where
  /-- The rules of commands, by their texts. -/
  commands : KeyMap CommandRule := {}
  /-- The rules of services, by their names. -/
  services : KeyMap ServiceRule := {}
  /-- How the probes go. -/
  probes : Probes := .readyAfter 0

/-- What has reached the scripted ports. -/
structure Record where
  /-- The commands that the executor got to. -/
  commands : List String := []
  /-- The process of the next service. -/
  nextPid : Nat := 1000
  /-- The services that were launched. -/
  launched : List String := []
  /-- The services that were interrupted, with their processes. -/
  signaled : List Handle := []
  /-- The number of probes. -/
  probes : Nat := 0
  /-- The URLs that were probed, with one in place of several equal ones in a row. -/
  urls : List String := []
  deriving DecidableEq, Repr

/-- A list with one more element at its end, unless it ends with it. -/
def pushNew (l : List String) (s : String) : List String :=
  if l.getLast? = some s then l else l ++ [s]

/-- What the executor does once it gets to a command. -/
def execution (r : Record) (text : String) :
    CommandOutcome → Activity Record (Except ProcessFault Completion)
  | .fault fault => .finish r (.error fault)
  | .exits code => .finish { r with commands := r.commands ++ [text] } (.ok ⟨code, 1⟩)
  | .spawnFails reason =>
    .finish { r with commands := r.commands ++ [text] } (.error (.spawn reason))
  | .hangs => .hang { r with commands := r.commands ++ [text] }

/-- The outcome of the launch of a service that gets to it. -/
def launching (r : Record) (service : String) (rule : ServiceRule) :
    Record × Except ProcessFault Handle :=
  match rule.ioFault with
  | some reason => (r, .error (.io reason))
  | none =>
    if rule.fails then (r, .error (.spawn s!"No such file or directory ({service})"))
    else
      ({ r with nextPid := r.nextPid + 1, launched := r.launched ++ [service] },
        .ok ⟨service, r.nextPid⟩)

/-- The outcome of an interrupt. -/
def interrupting (r : Record) (handle : Handle) (rule : ServiceRule) :
    Record × Except ProcessFault SignalOutcome :=
  match rule.signalFault with
  | some reason => (r, .error (.signal reason))
  | none =>
    ({ r with signaled := r.signaled ++ [handle] },
      .ok (if rule.exits then .alreadyExited else .delivered))

/-- The rule of the probe that comes after so many others. -/
def Probes.rule (done : Nat) : Probes → ProbeRule
  | .readyAfter failures =>
    if done < failures then { outcome := .error (.notReady "Connection refused") } else {}
  | .never => { outcome := .error (.notReady "Connection refused") }
  | .malformed reason => { outcome := .error (.malformed reason) }
  | .each rules => (rules[done]?).getD (rules.getLast?.getD {})

/-- The ports that play a script. -/
def ports (script : Script) : Ports Record where
  execute r _ invocation :=
    let rule := (script.commands.get? invocation.command.text).getD {}
    rule.course.activity r (execution r invocation.command.text rule.outcome)
  launch r _ service _ :=
    let rule := (script.services.get? service).getD {}
    let (state, result) := launching r service rule
    { state, raises := rule.raises, result }
  interrupt r _ handle :=
    let (state, result) := interrupting r handle ((script.services.get? handle.name).getD {})
    { state, result }
  probe r _ url :=
    let rule := script.probes.rule r.probes
    let r := { r with probes := r.probes + 1, urls := pushNew r.urls url }
    rule.course.activity r (.finish r rule.outcome)

end ServiceHarness.Scripted
