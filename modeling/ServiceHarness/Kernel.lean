import ServiceHarness.Ending
import ServiceHarness.Session.Ports

/-!
# Kernels

A `Kernel` is what the operating system does for the harness: it tells the time, begins processes,
tells how they ended and interrupts groups of them.  Its state is of a type `κ`.
-/

namespace ServiceHarness

/-- The answer to a signal for a group of processes. -/
inductive GroupAnswer where
  /-- It reached the group. -/
  | delivered
  /-- There is no such group. -/
  | noGroup
  /-- It was refused for a reason. -/
  | refused (reason : String)
  deriving DecidableEq, Repr

/-- What the operating system does for the harness. -/
structure Kernel (κ : Type) where
  /-- Reads the clock, in milliseconds. -/
  readClock : κ → Int64 × κ
  /-- Begins a process that executes an invocation, in a group of its own if asked to; tells its
  number, or why it could not be begun. -/
  spawn : κ → Invocation → (ownGroup : Bool) → Except String Nat × κ
  /-- Whether a child is still there, be it that it has ended. -/
  holds : κ → Nat → Bool
  /-- Tells how a child has ended, if it has; the child is then gone. -/
  collect : κ → Nat → Option Ending × κ
  /-- Waits until a child has ended and tells how, or why that cannot be told; the child is then
  gone. -/
  await : κ → Nat → Activity κ (Except String Ending)
  /-- Kills a child, which is gone as soon as it ends. -/
  kill : κ → Nat → κ
  /-- Leaves a child alone; it is gone as soon as it ends. -/
  release : κ → Nat → κ
  /-- Interrupts a group. -/
  interruptGroup : κ → Nat → GroupAnswer × κ

namespace Kernel

variable {κ τ : Type}

/-- Begins a process that executes an invocation.  That it could not be begun is told with the
name of the program. -/
def start (K : Kernel κ) (k : κ) (i : Invocation) (ownGroup : Bool) :
    Except ProcessFault Nat × κ :=
  match K.spawn k i ownGroup with
  | (.ok pid, k) => (.ok pid, k)
  | (.error reason, k) => (.error (.spawn s!"{i.command.program}: {reason}"), k)

/-- The kernel as a part of something larger. -/
def within (K : Kernel κ) (part : τ → κ) (put : τ → κ → τ) : Kernel τ where
  readClock t := ((K.readClock (part t)).1, put t (K.readClock (part t)).2)
  spawn t i ownGroup :=
    ((K.spawn (part t) i ownGroup).1, put t (K.spawn (part t) i ownGroup).2)
  holds t pid := K.holds (part t) pid
  collect t pid := ((K.collect (part t) pid).1, put t (K.collect (part t) pid).2)
  await t pid := (K.await (part t) pid).within (put t)
  kill t pid := put t (K.kill (part t) pid)
  release t pid := put t (K.release (part t) pid)
  interruptGroup t pid :=
    ((K.interruptGroup (part t) pid).1, put t (K.interruptGroup (part t) pid).2)

end Kernel

end ServiceHarness
