import ServiceHarness.Machine.Basic

/-!
# Threads

A `Thread` is what a process does: it acts on the machine, begins further processes, sleeps
and waits for them, and exits.  A `System` is a machine with a thread for each of its
processes.  `System.tick` lets every process take a step, and `System.run` lets them go on
until something is reached; time passes only when every process sleeps or waits.
-/

namespace ServiceHarness

/-- What a process does. -/
inductive Thread where
  /-- It exits. -/
  | exit (code : Nat)
  /-- It does something at once and goes on. -/
  | act (f : Machine → Machine × Thread)
  /-- It begins a process that does `child` and goes on; both are told its number. -/
  | fork (child : Nat → Thread) (rest : Nat → Thread)
  /-- It sleeps for some microseconds and goes on. -/
  | sleep (micros : Nat) (rest : Thread)
  /-- It waits for a child and goes on when that has ended, or if there is no such child; and
  also, if it may be roused, when it catches a signal. -/
  | wait (pid : Nat) (mayRouse : Bool) (rest : Option Ending → Thread)

/-- The state of a thread. -/
inductive ThreadState where
  /-- It can go on. -/
  | ready (thread : Thread)
  /-- It sleeps until an instant. -/
  | asleep (until_ : Nat) (thread : Thread)

/-- A machine and the threads of its processes. -/
structure System where
  /-- The machine. -/
  machine : Machine
  /-- The threads of the processes that have not ended. -/
  threads : List (Nat × ThreadState) := []

namespace System

/-- The system with the thread of a process in some state. -/
def setThread (s : System) (pid : Nat) (t : ThreadState) : System :=
  { s with threads := s.threads.map fun e => if e.1 = pid then (pid, t) else e }

/-- The system without the threads of processes that have ended. -/
def prune (s : System) : System :=
  { s with threads := s.threads.filter fun e => s.machine.isAlive e.1 }

/-- The system after a process has exited. -/
def exit (s : System) (pid code : Nat) : System :=
  prune { s with machine := s.machine.end_ pid (.exited (code % 256)) }

/-- The system with a process that does `thread`, and its number. -/
def begin (s : System) (p : Process) (thread : Nat → Thread) : Nat × System :=
  let (pid, machine) := s.machine.begin p
  (pid, { machine := machine, threads := s.threads ++ [(pid, .ready (thread pid))] })

/-- The system after the process has taken the next step of its thread, if it can take one. -/
def step (s : System) (pid : Nat) : Thread → Option System
  | .exit code => some (s.exit pid code)
  | .act f =>
    let (machine, t) := f s.machine
    some (prune ({ s with machine := machine }.setThread pid (.ready t)))
  | .fork child rest =>
    (s.machine.process? pid).map fun p =>
      let (new, s) := s.begin { p with parent := pid, caught := [], pending := [] } child
      s.setThread pid (.ready (rest new))
  | .sleep micros rest => some (s.setThread pid (.asleep (s.machine.now + micros) rest))
  | .wait child mayRouse rest =>
    let goOn (m : Machine) (e : Option Ending) : Option System :=
      some ({ s with machine := m }.setThread pid (.ready (rest e)))
    let isRoused := match s.machine.process? pid with
      | some p => mayRouse && !p.pending.isEmpty
      | none => false
    if isRoused then goOn s.machine none
    else match s.machine.process? child with
      | none => goOn s.machine none
      | some c =>
        if c.parent ≠ pid then goOn s.machine none
        else match c.ending with
          | some e => goOn (s.machine.reap child) (some e)
          | none => none

/-- The system after every process has taken a step that can take one, and whether one
could. -/
def tick (s : System) : System × Bool :=
  (s.threads.map (·.1)).foldl
    (fun (s, moved) pid => match s.threads.lookup pid with
      | none => (s, moved)
      | some (.ready t) =>
        match s.step pid t with
        | some s => (s, true)
        | none => (s, moved)
      | some (.asleep instant t) =>
        if instant ≤ s.machine.now then (s.setThread pid (.ready t), true) else (s, moved))
    (s, false)

/-- The instant at which the first sleeper wakes. -/
def wakes (s : System) : Option Nat :=
  (s.threads.filterMap fun e => match e.2 with
    | .asleep instant _ => some instant
    | .ready _ => none).min?

/-- The system at an instant. -/
def at_ (s : System) (instant : Nat) : System :=
  { s with machine := { s.machine with now := max s.machine.now instant } }

/-- Lets the processes go on until `stop` holds of the machine or an instant is reached, but for
no more than so many ticks. -/
def runFor (stop : Machine → Bool) (limit : Nat) : Nat → System → System
  | 0, s => s
  | ticks + 1, s =>
    if stop s.machine || limit < s.machine.now then s
    else
      let (s, moved) := s.tick
      if moved then runFor stop limit ticks s
      else match s.wakes with
        | none => s.at_ limit
        | some instant => if instant ≤ limit then runFor stop limit ticks (s.at_ instant) else s.at_ limit

/-- The number of ticks after which a system is given up. -/
def tickLimit : Nat :=
  400000

/-- Lets the processes go on until `stop` holds of the machine, but not beyond an instant. -/
def run (s : System) (stop : Machine → Bool) (limit : Nat) : System :=
  runFor stop limit tickLimit s

end System

/-- What a process does that works on a state of its own, in the style of a program. -/
def Work (σ α : Type) := σ → (α → σ → Thread) → Thread

namespace Work

variable {σ α : Type}

instance : Monad (Work σ) where
  pure a := fun s k => k a s
  bind w f := fun s k => w s fun a s => f a s k

/-- The state. -/
def get : Work σ σ := fun s k => k s s

/-- Changes the state. -/
def modify (f : σ → σ) : Work σ Unit := fun s k => k () (f s)

/-- Acts on the machine. -/
def act (f : Machine → α × Machine) : Work σ α := fun s k =>
  .act fun m => let (a, m) := f m; (m, k a s)

/-- Looks at the machine. -/
def look (f : Machine → α) : Work σ α :=
  act fun m => (f m, m)

/-- Changes the machine. -/
def update (f : Machine → Machine) : Work σ Unit :=
  act fun m => ((), f m)

/-- Exits. -/
def exit (code : Nat) : Work σ α := fun _ _ => .exit code

/-- Becomes another thread. -/
def become (t : σ → Thread) : Work σ α := fun s _ => t s

/-- Does something that may be left before it comes to its end. -/
def catching (body : (α → Work σ Empty) → Work σ α) : Work σ α := fun s k =>
  body (fun a s _ => k a s) s k

/-- Begins a process that does `child`, and tells its number. -/
def fork (child : σ → Nat → Thread) : Work σ Nat := fun s k => .fork (child s) fun pid => k pid s

/-- Sleeps for some microseconds. -/
def sleep (micros : Nat) : Work σ Unit := fun s k => .sleep micros (k () s)

/-- Waits for a child. -/
def wait (pid : Nat) (mayRouse : Bool) : Work σ (Option Ending) := fun s k =>
  .wait pid mayRouse fun e => k e s

/-- The thread that does a work and exits with what it tells. -/
def thread (w : Work σ Nat) (s : σ) : Thread :=
  w s fun code _ => .exit code

end Work

end ServiceHarness
