import ServiceHarness.Clock
import ServiceHarness.Kernel
import ServiceHarness.Notice

/-!
# The executor

The executor runs a command to its end in the group of the harness.  The clock is read before the
command is begun and after it has ended, and the duration is the time between the two readings.  A
command whose call is abandoned is killed.
-/

namespace ServiceHarness.Executor

variable {κ : Type}

/-- What is told of a command that ended, with the clock readings before and after it. -/
def completion (before after : Int64) (e : Ending) : Except Clock.Panic Completion :=
  (Clock.elapsed after before).map fun millis => ⟨e.code, millis.toInt⟩

/-- Runs a command to its end; what is told besides its completion is what the log is told. -/
def run (K : Kernel κ) (k : κ) (i : Invocation) :
    Activity κ (Except ProcessFault Completion × List Notice) :=
  let (before, k) := K.readClock k
  match K.start k i false with
  | (.error fault, k) => .finish k (.error fault, [])
  | (.ok pid, k) =>
    ((K.await k pid).orElse (K.kill · pid)).bind fun k ending =>
      match ending with
      | .error reason => .finish (K.kill k pid) (.error (.io reason), [])
      | .ok ending =>
        let (after, k) := K.readClock k
        match completion before after ending with
        | .error _ => .panic k
        | .ok c => .finish k (.ok c, [.commandCompleted i.command.text c])

end ServiceHarness.Executor
