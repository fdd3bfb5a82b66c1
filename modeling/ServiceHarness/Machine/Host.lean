import ServiceHarness.Kernel
import ServiceHarness.Machine.Program

/-!
# Hosts

A `Host` is a system together with the harness that runs on it: its environment and its directory.
`Host.spawn` begins a process that executes an invocation; a child of the harness that has ended
stays until it is collected, unless it has been released.
-/

namespace ServiceHarness

/-- A system and the harness on it. -/
structure Host where
  /-- The system. -/
  system : System
  /-- The variables that the harness sees. -/
  environment : Environment
  /-- The directory of the harness. -/
  directory : String
  /-- The children of the harness for which it does not wait any longer. -/
  released : List Nat := []

namespace Host

/-- The machine. -/
def machine (h : Host) : Machine :=
  h.system.machine

/-- A host whose files are those of a tree. -/
def ofFiles (files : FileTree) (directory : String) (environment : Environment) : Host where
  system := { machine := { files := files } }
  environment := environment
  directory := directory

/-- What is told of a text with a character that no text of the system can hold. -/
def unusableText : String :=
  "nul byte found in provided data"

/-- Whether every text of an invocation can be handed to the system. -/
def isUsable (i : Invocation) : Bool :=
  let texts := i.directory :: i.command.program :: i.command.args
    ++ i.patch.assigned.flatMap fun e => [e.1, e.2]
  texts.all fun t => !t.toList.contains '\x00'

/-- The image of an invocation. -/
def image (h : Host) (i : Invocation) : Image where
  program := i.command.program
  args := i.command.args
  environment := i.patch.applyTo h.environment
  readsScripts := ((i.patch.value? "PATH").isSome || i.patch.withdraws "PATH")
    && !i.command.program.toList.contains '/'

/-- The streams of an invocation. -/
def streams : Output → List (Nat × Stream)
  | .suppressed => [(0, .device .null), (1, .device .null), (2, .device .null)]
  | .streamed => [(0, .device .null), (1, .console false), (2, .console true)]

/-- The directory in which an invocation runs. -/
def directoryOf (h : Host) (i : Invocation) : Except PathFault String := do
  let path ← h.machine.files.resolve h.directory i.directory
  match h.machine.files.node? path with
  | some .directory => return path
  | some _ => throw .notDirectory
  | none => throw .missing

/-- Begins a process that executes an invocation, in a group of its own if asked to; tells its
number, or why it could not be begun. -/
def spawn (h : Host) (i : Invocation) (ownGroup : Bool) : Except String Nat × Host :=
  if !isUsable i then (.error unusableText, h)
  else
    match h.directoryOf i with
    | .error fault => (.error fault.message, h)
    | .ok directory =>
      let pid := h.machine.next
      let group := if ownGroup then pid else harnessProcess
      let process : Process :=
        { parent := harnessProcess, group, directory, streams := streams i.output }
      let begun := { h.machine with processes := h.machine.processes ++ [(pid, process)] }
      match Program.execute (h.image i) pid begun with
      | .error fault => (.error fault.message, h)
      | .ok thread =>
        let (_, system) := h.system.begin process fun _ => thread
        (.ok pid, { h with system })

/-- The host without the released children that have ended. -/
def sweep (h : Host) : Host :=
  let ended := h.released.filter fun pid => !h.machine.isAlive pid
  let machine := ended.foldl Machine.reap h.machine
  { h with
    system := { h.system with machine }
    released := h.released.filter fun pid => !ended.contains pid }

/-- Lets the processes go on until `stop` holds, but not beyond an instant. -/
def runTo (h : Host) (stop : Machine → Bool) (micros : Nat) : Host :=
  sweep { h with system := (sweep h).system.run stop micros }

/-- Lets the processes go on until `stop` holds, but for no more than so many milliseconds. -/
def run (h : Host) (stop : Machine → Bool) (millis : Nat) : Host :=
  h.runTo stop (h.machine.now + millis * 1000)

/-- How a child of the harness has ended, if it has; it is then gone. -/
def collect (h : Host) (pid : Nat) : Option Ending × Host :=
  match h.machine.process? pid with
  | some p =>
    match p.ending with
    | some e =>
      if p.parent = harnessProcess then
        (some e, { h with system := { h.system with machine := h.machine.reap pid } })
      else (none, h)
    | none => (none, h)
  | none => (none, h)

/-- The host after the harness has given up waiting for a child. -/
def release (h : Host) (pid : Nat) : Host :=
  { h with released := h.released ++ [pid] }

/-- The host after a change of the machine. -/
def changeMachine {α : Type} (h : Host) (f : Machine → α × Machine) : α × Host :=
  let (a, machine) := f h.machine
  (a, { h with system := System.prune { h.system with machine } })

/-- The host after a signal has gone to a process. -/
def signal (h : Host) (pid n : Nat) : Host :=
  (h.changeMachine fun m => ((), m.signal pid n)).2

/-- Interrupts a group. -/
def interruptGroup (h : Host) (group : Nat) : GroupAnswer × Host :=
  let (found, h) := h.changeMachine fun m => m.signalGroup group Signal.interrupt
  (if found then .delivered else .noGroup, h)

/-- The time in milliseconds, rounded up. -/
def millis (h : Host) : Nat :=
  (h.machine.now + 999) / 1000

/-- The milliseconds after which nothing is expected of a command any more. -/
def commandLimit : Nat :=
  600000

/-- Waits until a child has ended.  Where `raises` holds before that, the stop signal is raised, and
nothing is expected of the child any more. -/
def await (raises : Machine → Bool) (h : Host) (pid : Nat) :
    Activity Host (Except String Ending) :=
  let ahead := h.run (fun m => !m.isAlive pid || raises m) commandLimit
  let rest := match ahead.collect pid with
    | (some ending, gone) => .finish gone (.ok ending)
    | (none, _) => Activity.raisingIf (raises ahead.machine) (.hang ahead)
  Activity.after (ahead.millis - h.millis) ahead rest

/-- The host after a child has been killed. -/
def kill (h : Host) (pid : Nat) : Host :=
  (h.signal pid Signal.kill).release pid

/-- The host as a kernel. -/
def kernel : Kernel Host where
  readClock h := (Int64.ofNat h.millis, h)
  spawn := spawn
  holds h pid := (h.machine.process? pid).isSome
  collect := collect
  await := await fun _ => false
  kill := kill
  release := release
  interruptGroup := interruptGroup

/-- The contents of a file, if there is one. -/
def contents? (h : Host) (path : String) : Option String :=
  (h.machine.files.read h.directory path).toOption

/-- Whether a file has contents on a machine. -/
def isFilled (directory path : String) (m : Machine) : Bool :=
  match m.files.read directory path with
  | .ok text => text ≠ ""
  | .error _ => false

end Host

end ServiceHarness
