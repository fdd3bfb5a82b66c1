/-!
# The stop signal

A `StopSignal` carries one bit from a sender to any number of tokens: whether the operator
asked to stop.  The bit is raised at most once, by a sender that is still there, and never
lowered.  A `Channel` is a signal with the tokens and waiters made from it; `Channel.step`
performs one `ChannelStep` and gives its `Answer`.  A waiter keeps a `Vigil`: each time it is
polled it looks at the signal, and once it has seen the sender gone with the bit not raised there
is nothing left to look for.
-/

namespace ServiceHarness

/-- The one bit, and whether there is still a sender to raise it. -/
structure StopSignal where
  /-- Whether the operator asked to stop. -/
  raised : Bool := false
  /-- Whether the sender is still there. -/
  senderAlive : Bool := true
  deriving DecidableEq, Repr

/-- The signal after its sender, if it is still there, has raised it. -/
def StopSignal.raise (s : StopSignal) : StopSignal :=
  { s with raised := s.raised || s.senderAlive }

/-- The signal after its sender has gone. -/
def StopSignal.dropSender (s : StopSignal) : StopSignal :=
  { s with senderAlive := false }

/-- What one who watches a signal sees. -/
inductive Sight where
  /-- It is raised. -/
  | raised
  /-- It is not, and there is no sender any more. -/
  | closed
  /-- It is not, so far. -/
  | unchanged
  deriving DecidableEq, Repr

/-- What is seen of the signal. -/
def StopSignal.sight (s : StopSignal) : Sight :=
  if s.raised then .raised else if s.senderAlive then .unchanged else .closed

/-- How one waits for a signal. -/
inductive Vigil where
  /-- It is watched. -/
  | watching
  /-- It was seen closed, and nothing is awaited any more. -/
  | idle
  deriving DecidableEq, Repr

/-- What a poll of a waiter finds. -/
inductive Poll where
  /-- The signal is raised. -/
  | ready
  /-- It is not. -/
  | pending
  /-- The waiter was ready before. -/
  | done
  deriving DecidableEq, Repr

/-- What is found of the signal, and how one goes on to wait. -/
def Vigil.poll (s : StopSignal) : Vigil → Poll × Vigil
  | .idle => (.pending, .idle)
  | .watching =>
    match s.sight with
    | .raised => (.ready, .watching)
    | .closed => (.pending, .idle)
    | .unchanged => (.pending, .watching)

/-- What is found of a signal that is watched, also of a closed one. -/
theorem Vigil.poll_watching (s : StopSignal) :
  (Vigil.poll s .watching).1 = if s.raised then .ready else .pending
  := by
  obtain ⟨raised, senderAlive⟩ := s
  cases raised with
  | true => rfl
  | false =>
    cases senderAlive with
    | true => rfl
    | false => rfl

/-- Of a signal that is not raised nothing is found. -/
theorem Vigil.poll_of_not_raised {s : StopSignal} (h : s.raised = false) (v : Vigil) :
  (v.poll s).1 = .pending
  := by
  cases v with
  | idle => rfl
  | watching => rw [poll_watching, h]; rfl

/-- A waiter on a signal. -/
inductive Waiter where
  /-- It has not been ready yet. -/
  | waiting (vigil : Vigil)
  /-- It has been ready once. -/
  | finished
  deriving DecidableEq, Repr

/-- What a poll of the waiter finds, and the waiter after it. -/
def Waiter.poll (s : StopSignal) : Waiter → Poll × Waiter
  | .finished => (.done, .finished)
  | .waiting v =>
    match v.poll s with
    | (.ready, _) => (.ready, .finished)
    | (found, v) => (found, .waiting v)

/-- A signal, how many tokens there are, and its waiters in the order of their making. -/
structure Channel where
  /-- The signal that all tokens share. -/
  signal : StopSignal := {}
  /-- The number of tokens. -/
  tokens : Nat := 1
  /-- The waiters. -/
  waiters : List Waiter := []
  deriving DecidableEq, Repr

/-- Something that is done to a channel. -/
inductive ChannelStep where
  /-- The sender raises the signal. -/
  | raise
  /-- The sender goes. -/
  | dropSender
  /-- A token is cloned. -/
  | clone (token : Nat)
  /-- A token is asked whether the signal is raised. -/
  | isRaised (token : Nat)
  /-- A waiter is made from a token. -/
  | wait (token : Nat)
  /-- A waiter is polled once. -/
  | poll (waiter : Nat)
  deriving DecidableEq, Repr

/-- The answer to a step. -/
inductive Answer where
  /-- A truth value. -/
  | flag (b : Bool)
  /-- A number. -/
  | count (n : Nat)
  /-- The finding of a poll. -/
  | polled (p : Poll)
  deriving DecidableEq, Repr

/-- The answer to a step and the channel after it.  A waiter that was never made is
pending. -/
def Channel.step (c : Channel) : ChannelStep → Answer × Channel
  | .raise => (.flag c.signal.senderAlive, { c with signal := c.signal.raise })
  | .dropSender => (.flag c.signal.senderAlive, { c with signal := c.signal.dropSender })
  | .clone _ => (.count (c.tokens + 1), { c with tokens := c.tokens + 1 })
  | .isRaised _ => (.flag c.signal.raised, c)
  | .wait _ =>
    (.count (c.waiters.length + 1), { c with waiters := c.waiters ++ [.waiting .watching] })
  | .poll i =>
    match c.waiters[i]? with
    | none => (.polled .pending, c)
    | some w =>
      (.polled (w.poll c.signal).1,
        { c with waiters := c.waiters.set i (w.poll c.signal).2 })

/-- The answers to a list of steps, made one after the other. -/
def Channel.steps (c : Channel) : List ChannelStep → List Answer
  | [] => []
  | s :: rest => (c.step s).1 :: (c.step s).2.steps rest

end ServiceHarness
