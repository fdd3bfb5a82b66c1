/-!
# Endings

A process ends by exiting with a code or by a signal.  `Ending.code` is the exit code that the
harness tells, and `Ending.status` the one that a shell tells.
-/

namespace ServiceHarness

/-- How a process ended. -/
inductive Ending where
  /-- It exited with a code. -/
  | exited (code : Nat)
  /-- A signal killed it. -/
  | killed (signal : Nat)
  deriving DecidableEq, Repr

/-- The exit code that is told of an ending: `-n` after the signal `n`. -/
def Ending.code : Ending → Int
  | .exited code => code
  | .killed signal => -signal

/-- The status that a shell tells of an ending. -/
def Ending.status : Ending → Nat
  | .exited code => code
  | .killed signal => 128 + signal

end ServiceHarness
