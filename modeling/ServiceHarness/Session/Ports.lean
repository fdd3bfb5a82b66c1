import ServiceHarness.Service

/-!
# Ports

A run reaches the outside through `Ports`: it executes commands, launches services,
interrupts them and probes a URL.  What a port does may depend on its state, of type `σ`,
and on the time.  A launch or an interrupt answers at once, with a `Reply`; executing a
command and probing take their course, an `Activity`, which may pause, panic or never come
to an end.  Any of them may raise the stop signal of the run.
-/

namespace ServiceHarness

/-- The course of a call that ends with an outcome of type `α`, if it ends.  Wherever the
call may be abandoned it shows the state in which the ports are then left. -/
inductive Activity (σ α : Type) where
  /-- The call ends. -/
  | finish (state : σ) (outcome : α)
  /-- The call never ends. -/
  | hang (state : σ)
  /-- The call panics. -/
  | panic (state : σ)
  /-- The stop signal of the run is raised, and the call goes on. -/
  | raise (rest : Activity σ α)
  /-- The call pauses for some milliseconds before it goes on. -/
  | pause (millis : Nat) (state : σ) (rest : Activity σ α)

namespace Activity

variable {σ τ α β : Type}

/-- The activity followed by another one, which goes by the outcome. -/
def bind (next : σ → α → Activity σ β) : Activity σ α → Activity σ β
  | .finish s outcome => next s outcome
  | .hang s => .hang s
  | .panic s => .panic s
  | .raise rest => .raise (rest.bind next)
  | .pause millis s rest => .pause millis s (rest.bind next)

/-- The activity with states that are parts of larger ones. -/
def within (put : σ → τ) : Activity σ α → Activity τ α
  | .finish s outcome => .finish (put s) outcome
  | .hang s => .hang (put s)
  | .panic s => .panic (put s)
  | .raise rest => .raise (rest.within put)
  | .pause millis s rest => .pause millis (put s) (rest.within put)

/-- The activity after which, wherever it is abandoned, something more is done. -/
def orElse (abandoned : σ → σ) : Activity σ α → Activity σ α
  | .finish s outcome => .finish s outcome
  | .hang s => .hang (abandoned s)
  | .panic s => .panic (abandoned s)
  | .raise rest => .raise (rest.orElse abandoned)
  | .pause millis s rest => .pause millis (abandoned s) (rest.orElse abandoned)

/-- The activity preceded by a pause; no pause at all if it is to take no time. -/
def after (millis : Nat) (state : σ) (rest : Activity σ α) : Activity σ α :=
  if millis = 0 then rest else .pause millis state rest

/-- The activity preceded, if `b`, by raising the stop signal. -/
def raisingIf (b : Bool) (rest : Activity σ α) : Activity σ α :=
  if b then .raise rest else rest

end Activity

/-- The answer to a call that ends at once. -/
structure Reply (σ α : Type) where
  /-- The state of the ports after the call. -/
  state : σ
  /-- Whether the stop signal of the run is raised meanwhile. -/
  raises : Bool := false
  /-- The outcome of the call, or what went wrong. -/
  result : Except ProcessFault α

/-- The ways in which a run reaches the outside.  Each call is told the state of the ports
and the milliseconds since the run began. -/
structure Ports (σ : Type) where
  /-- Executes a command to its end. -/
  execute : σ → Nat → Invocation → Activity σ (Except ProcessFault Completion)
  /-- Launches a service. -/
  launch : σ → Nat → String → Invocation → Reply σ Handle
  /-- Interrupts a launched service. -/
  interrupt : σ → Nat → Handle → Reply σ SignalOutcome
  /-- Probes a URL once. -/
  probe : σ → Nat → String → Activity σ (Except ProbeFault Unit)

end ServiceHarness
