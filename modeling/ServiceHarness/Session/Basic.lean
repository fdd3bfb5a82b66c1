import ServiceHarness.Notice
import ServiceHarness.Session.Ports

/-!
# Sessions

A `Session` is a computation on the `World` of a run: the state of its ports, the virtual
time, the stop signal, the live services and the `trace` of everything that has happened.
It may be `Cut` short: the caller drops the run, or a port panics.  When the signal is
raised from outside and when the caller drops the run is fixed by the `Controls`.

Time passes in `suspend` alone.  `race` plays an activity against the stop signal: while
the activity pauses or hangs, the signal wins as soon as it is raised.
-/

namespace ServiceHarness

/-- What becomes of the sender of a run's stop signal. -/
inductive SenderFate where
  /-- It stays and is silent. -/
  | silent
  /-- It raises the signal at an instant. -/
  | raises (at_ : Nat)
  /-- It goes at an instant; nothing can raise the signal from then on. -/
  | lost (at_ : Nat)
  deriving DecidableEq, Repr

/-- What happens to a run from outside. -/
structure Controls where
  /-- What becomes of the sender of the stop signal. -/
  sender : SenderFate := .silent
  /-- The instant at which the caller drops the run if it is not over by then. -/
  dropAt : Nat
  deriving DecidableEq, Repr

section

/-- Results are compared by what they hold. -/
local instance decidableEqResult {ε α : Type} [DecidableEq ε] [DecidableEq α] :
    DecidableEq (Except ε α)
  | .ok a, .ok b => decidable_of_iff (a = b) ⟨congrArg _, Except.ok.inj⟩
  | .error e, .error e' => decidable_of_iff (e = e') ⟨congrArg _, Except.error.inj⟩
  | .ok _, .error _ => .isFalse fun h => nomatch h
  | .error _, .ok _ => .isFalse fun h => nomatch h

/-- Something that happens in a run. -/
inductive Event where
  /-- A phase is entered. -/
  | entered (phase : Phase)
  /-- The log is told something. -/
  | noticed (notice : Notice)
  /-- The execution of a command is begun. -/
  | executing (invocation : Invocation)
  /-- The execution of a command has come to its end. -/
  | executed (result : Except ProcessFault Completion)
  /-- A service is launched, with a result. -/
  | launched (service : String) (invocation : Invocation) (result : Except ProcessFault Handle)
  /-- A probe is begun. -/
  | probing (url : String)
  /-- A probe has come to its end. -/
  | probed (result : Except ProbeFault Unit)
  /-- A launched service is interrupted, with a result. -/
  | interrupted (handle : Handle) (result : Except ProcessFault SignalOutcome)
  /-- The stop signal is raised, at an instant. -/
  | raised (at_ : Nat)
  deriving DecidableEq

end

/-- The phase that is entered, if one is. -/
def Event.phase? : Event → Option Phase
  | .entered p => some p
  | _ => none

/-- What the log is told, if anything. -/
def Event.notice? : Event → Option Notice
  | .noticed n => some n
  | _ => none

/-- How a run is cut short. -/
inductive Cut where
  /-- The caller dropped it. -/
  | dropped
  /-- A port panicked. -/
  | panicked
  deriving DecidableEq, Repr

/-- Everything that a run can change. -/
structure World (σ : Type) where
  /-- The state of the ports. -/
  ports : σ
  /-- The milliseconds since the run began. -/
  now : Nat
  /-- Whether the stop signal is raised. -/
  raised : Bool
  /-- The phase that was entered last. -/
  phase : Option Phase
  /-- The launched services that have not been interrupted, in the order of launching. -/
  live : List Handle
  /-- What has happened, in order. -/
  trace : Array Event

/-- A computation on the world of a run that may be cut short. -/
abbrev Session (σ : Type) := EStateM Cut (World σ)

/-- A session that may also fail and then goes on to its teardown. -/
abbrev Attempt (σ : Type) := ExceptT RunFault (Session σ)

variable {σ α : Type}

namespace World

/-- The world after one more event. -/
def record (w : World σ) (e : Event) : World σ :=
  { w with trace := w.trace.push e }

/-- The world after the stop signal has been raised, which is an event the first time. -/
def trip (w : World σ) : World σ :=
  if w.raised then w else { w.record (.raised w.now) with raised := true }

/-- The world in which nothing has happened yet. -/
def fresh (ports : σ) : World σ where
  ports := ports
  now := 0
  raised := false
  phase := none
  live := []
  trace := #[]

/-- The world in which a run begins. -/
def initial (c : Controls) (ports : σ) : World σ :=
  if c.sender = .raises 0 then (fresh ports).trip else fresh ports

/-- The world after the log has been told something. -/
def tell (w : World σ) (n : Notice) : World σ :=
  w.record (.noticed n)

/-- The world after a port has raised the stop signal, which takes a sender. -/
def raise (c : Controls) (w : World σ) : World σ :=
  match c.sender with
  | .lost t => if t ≤ w.now then w else w.trip
  | _ => w.trip

/-- The world after a port has raised the stop signal or, unless `b`, has not. -/
def raiseIf (b : Bool) (c : Controls) (w : World σ) : World σ :=
  if b then w.raise c else w

/-- The world after the launch of a service: a handle is held if there is one. -/
def launch (w : World σ) (service : String) (invocation : Invocation)
    (reply : Reply σ Handle) : World σ :=
  { w.record (.launched service invocation reply.result) with
    ports := reply.state
    live := w.live ++ reply.result.toOption.toList }

/-- The world after the interrupt of the first live service, whose handle is let go. -/
def interrupt (w : World σ) (h : Handle) (reply : Reply σ SignalOutcome) : World σ :=
  { w.record (.interrupted h reply.result) with
    ports := reply.state
    live := w.live.tail }

/-- The events so far. -/
def events (w : World σ) : List Event :=
  w.trace.toList

/-- The phases entered so far. -/
def phases (w : World σ) : List Phase :=
  w.events.filterMap Event.phase?

/-- What the log has been told so far. -/
def notices (w : World σ) : List Notice :=
  w.events.filterMap Event.notice?

end World

namespace Session

/-- Records an event. -/
def record (e : Event) : Session σ Unit :=
  modify (·.record e)

/-- Tells the log something. -/
def tell (n : Notice) : Session σ Unit :=
  record (.noticed n)

/-- Enters a phase, and tells the log if it may not follow the one before it. -/
def enter (next : Phase) : Session σ Unit := do
  match (← get).phase with
  | some current => if !current.mayPrecede next then tell (.unexpectedPhase current next)
  | none => pure ()
  modify fun w => { w with phase := some next }
  record (.entered next)

/-- Whether the stop signal is raised. -/
def isRaised : Session σ Bool :=
  return (← get).raised

/-- How a suspension ends. -/
inductive Wake where
  /-- The time is over. -/
  | elapsed
  /-- The stop signal is raised. -/
  | raised
  deriving DecidableEq, Repr

/-- The instant at which the signal is raised from outside, if it is raised before the
caller drops the run and no later than `limit`. -/
def raisedBy (c : Controls) (limit : Option Nat) : Option Nat :=
  match c.sender with
  | .raises t => if t ≤ c.dropAt && limit.all (t ≤ ·) then some t else none
  | _ => none

/-- Lets the given time pass, or any time at all for `none`.  The suspension ends early
when the stop signal is raised, and at once if it is raised already. -/
def suspend (c : Controls) (millis : Option Nat) : Session σ Wake := do
  let w ← get
  if w.raised then return .raised
  let limit := millis.map (w.now + ·)
  match raisedBy c limit, limit with
  | some t, _ =>
    set { w with now := max w.now t }.trip
    return .raised
  | none, some t =>
    if t ≤ c.dropAt then
      set { w with now := t }
      return .elapsed
    else
      set { w with now := max w.now c.dropAt }
      throw .dropped
  | none, none =>
    set { w with now := max w.now c.dropAt }
    throw .dropped

/-- Plays an activity until it ends or, while it pauses or hangs, the stop signal is
raised; `none` if the signal comes first. -/
def play (c : Controls) : Activity σ α → Session σ (Option α)
  | .finish s outcome => do
    modify fun w => { w with ports := s }
    return some outcome
  | .panic s => do
    modify fun w => { w with ports := s }
    throw .panicked
  | .hang s => do
    modify fun w => { w with ports := s }
    let _ ← suspend c none
    return none
  | .raise rest => do
    modify (World.raise c)
    play c rest
  | .pause millis s rest => do
    modify fun w => { w with ports := s }
    match ← suspend c (some millis) with
    | .raised => return none
    | .elapsed => play c rest

/-- Begins an activity and plays it, unless the stop signal is raised already: then
nothing is begun. -/
def race (c : Controls) (begin : Session σ (Activity σ α)) : Session σ (Option α) := do
  if ← isRaised then return none
  play c (← begin)

/-- Records the outcome of a race, if it has one. -/
def conclude (e : α → Event) (outcome : Option α) : Session σ (Option α) := do
  match outcome with
  | some a => record (e a)
  | none => pure ()
  return outcome

end Session

end ServiceHarness
