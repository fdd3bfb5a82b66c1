import ServiceHarness.Kernel
import ServiceHarness.Notice
import ServiceHarness.Service

/-!
# The launcher

A `Launcher` begins each service as the leader of a group of its own and holds it as a child until
it is interrupted.  The interrupt goes to the whole group: a group can outlive its leader, so only
the answer that there is no such group tells that nothing is left.
-/

namespace ServiceHarness

variable {κ : Type}

/-- The children of the harness that lead services, and the state of the kernel. -/
structure Launcher (κ : Type) where
  /-- The state of the kernel. -/
  kernel : κ
  /-- The leaders of the services that have not been interrupted. -/
  children : List Nat := []

namespace Launcher

/-- Launches a service.  Its number can be told only while it is there. -/
def launch (K : Kernel κ) (l : Launcher κ) (service : String) (i : Invocation) :
    Except ProcessFault Handle × Launcher κ :=
  match K.start l.kernel i true with
  | (.ok pid, k) =>
    if K.holds k pid then
      (.ok ⟨service, pid⟩, { kernel := k, children := pid :: l.children.filter (· != pid) })
    else
      (.error (.spawn s!"{service} exited before its pid was read"), { l with kernel := k })
  | (.error fault, k) => (.error fault, { l with kernel := k })

/-- Gives up a child, and tells the log if it has ended already. -/
def letGo (K : Kernel κ) (l : Launcher κ) (h : Handle) : List Notice × Launcher κ :=
  if l.children.contains h.pid then
    let children := l.children.filter (· != h.pid)
    match K.collect l.kernel h.pid with
    | (some ending, k) => ([.leaderExited h.name h.pid ending.code], { kernel := k, children })
    | (none, k) => ([], { kernel := K.release k h.pid, children })
  else ([], l)

/-- The largest number that a group can have. -/
def largestGroup : Nat :=
  Int32.maxValue.toNatClampNeg

/-- Interrupts a group. -/
def interruptGroup (K : Kernel κ) (k : κ) (pid : Nat) :
    Except ProcessFault SignalOutcome × κ :=
  if largestGroup < pid then (.error (.signal s!"pid {pid} out of range"), k)
  else
    match K.interruptGroup k pid with
    | (.delivered, k) => (.ok .delivered, k)
    | (.noGroup, k) => (.ok .alreadyExited, k)
    | (.refused reason, k) =>
      (.error (.signal s!"SIGINT to process group {pid} failed: {reason}"), k)

/-- Interrupts a service: its leader is given up, and the signal goes to its group. -/
def interrupt (K : Kernel κ) (l : Launcher κ) (h : Handle) :
    (Except ProcessFault SignalOutcome × List Notice) × Launcher κ :=
  let (notices, l) := letGo K l h
  let (answer, k) := interruptGroup K l.kernel h.pid
  ((answer, notices), { l with kernel := k })

end Launcher

end ServiceHarness
