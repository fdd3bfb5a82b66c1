import ServiceHarness.Proofs.Sequential.Mirror

/-!
# Relations between sessions

A relation between sessions is a `Session.Congruence` if it holds of the few things that sessions
are made of: to look at everything but what has happened, to make a mild change, to be suspended
and to raise the signal, the last two under some controls and under others.  Sessions that are put
together in the same way are then related, and so are attempts.
-/

namespace ServiceHarness

variable {σ α β : Type} {c c' : Controls}

/-! ### Worlds with a longer past -/

namespace World

/-- The world in which, before everything that has happened, other events happened. -/
def preceded (before : Array Event) (w : World σ) : World σ :=
  { w with trace := before ++ w.trace }

variable (before : Array Event) (w : World σ)

/-- The world without what has happened. -/
def bare (w : World σ) : World σ :=
  { w with trace := #[] }

theorem bare_preceded :
  w.bare.preceded w.trace = w
  := by
  rw [bare, preceded, Array.append_empty]

theorem events_preceded :
  (w.preceded before).events = before.toList ++ w.events
  := Array.toList_append

@[simp]
theorem record_preceded (e : Event) :
  (w.preceded before).record e = (w.record e).preceded before
  := by
  rw [record, preceded, Array.push_append]
  rfl

@[simp]
theorem tell_preceded (n : Notice) :
  (w.preceded before).tell n = (w.tell n).preceded before
  := w.record_preceded before _

@[simp]
theorem trip_preceded :
  (w.preceded before).trip = w.trip.preceded before
  := by
  cases h : w.raised with
  | true =>
    have h' : (w.preceded before).raised = true := h
    rw [trip_of_raised _ h', trip_of_raised _ h]
  | false =>
    have h' : (w.preceded before).raised = false := h
    rw [trip_of_not_raised _ h', trip_of_not_raised _ h, record_preceded]
    rfl

theorem raise_preceded (c : Controls) :
  (w.preceded before).raise c = (w.raise c).preceded before
  := by
  have hnow : (w.preceded before).now = w.now := rfl
  rw [raise, raise, trip_preceded, hnow]
  split
  · split
    · rfl
    · rfl
  · rfl

theorem raiseIf_preceded (b : Bool) (c : Controls) :
  (w.preceded before).raiseIf b c = (w.raiseIf b c).preceded before
  := by
  cases b with
  | true => apply w.raise_preceded before c
  | false => rfl

theorem launch_preceded (service : String) (invocation : Invocation) (reply : Reply σ Handle) :
  (w.preceded before).launch service invocation reply
    = (w.launch service invocation reply).preceded before
  := by
  rw [launch, record_preceded]
  rfl

theorem interrupt_preceded (h : Handle) (reply : Reply σ SignalOutcome) :
  (w.preceded before).interrupt h reply = (w.interrupt h reply).preceded before
  := by
  rw [interrupt, record_preceded]
  rfl

/-- A change of the world, with what it gives, is mild if it takes no notice of what has happened,
and leaves a raised signal raised. -/
structure Mild (f : World σ → α × World σ) : Prop where
  /-- It takes no notice of what has happened. -/
  past : ∀ before w, f (w.preceded before) = ((f w).1, (f w).2.preceded before)
  /-- A raised signal stays raised. -/
  raised : ∀ w, w.raised = true → (f w).2.raised = true

end World

namespace Session

/-- The relation goes along with what sessions are made of, under the one controls and the other;
the run is dropped at the same instant under both. -/
structure Congruence (c c' : Controls) (R : ∀ α : Type, Session σ α → Session σ α → Prop) :
    Prop where
  /-- The run is dropped at the same instant. -/
  dropAt : c'.dropAt = c.dropAt
  /-- To do nothing. -/
  returns {α : Type} (a : α) : R α (pure a) (pure a)
  /-- To be cut short at once. -/
  cuts {α : Type} (k : Cut) : R α (throw k) (throw k)
  /-- To do one thing and then another. -/
  binds {α β : Type} {m m' : Session σ α} {f f' : α → Session σ β} (h : R α m m')
    (hf : ∀ a, R β (f a) (f' a)) : R β (m >>= f) (m' >>= f')
  /-- To look at everything but what has happened. -/
  looks : R (World σ) (do return (← get).bare) (do return (← get).bare)
  /-- To make a mild change. -/
  changes {α : Type} {f : World σ → α × World σ} (hf : World.Mild f) :
    R α (modifyGet f) (modifyGet f)
  /-- To be suspended. -/
  suspends (millis : Option Nat) : R Wake (suspend c millis) (suspend c' millis)
  /-- A port raises the signal. -/
  raises : R PUnit (modify (World.raise c)) (modify (World.raise c'))

namespace Congruence

variable {R : ∀ α : Type, Session σ α → Session σ α → Prop} (h : Congruence c c' R)

include h

/-- What goes on from a look at the world may depend on it, but not on what has happened. -/
theorem consults {f f' : World σ → Session σ β} (hf : ∀ before w, f (w.preceded before) = f w)
    (hf' : ∀ before w, f' (w.preceded before) = f' w) (hR : ∀ w, R β (f w) (f' w)) :
  R β (get >>= f) (get >>= f')
  := by
  have hbare : ∀ {f : World σ → Session σ β}, (∀ before w, f (w.preceded before) = f w) →
      get >>= f = (do return (← get).bare) >>= f := by
    intro f hf
    funext w
    change f w w = f w.bare w
    rw [← hf w.trace w.bare, w.bare_preceded]
  rw [hbare hf, hbare hf']
  apply h.binds h.looks hR

theorem modifies {f : World σ → World σ}
    (hpast : ∀ before w, f (w.preceded before) = (f w).preceded before)
    (hraised : ∀ w, w.raised = true → (f w).raised = true) :
  R PUnit (modify f) (modify f)
  := by
  apply h.changes
  constructor
  case past =>
    intro before w
    rw [hpast]
  case raised => exact hraised

theorem records (e : Event) :
  R Unit (record e) (record e)
  := by
  apply h.modifies
  · intro before w
    apply w.record_preceded
  · intro _ hraised
    exact hraised

theorem tells (n : Notice) :
  R Unit (tell n) (tell n)
  := h.records _

theorem settles (s : σ) :
  R PUnit (modify fun w => { w with ports := s }) (modify fun w => { w with ports := s })
  := by
  apply h.modifies
  · intro _ _
    rfl
  · intro _ hraised
    exact hraised

theorem enters (p : Phase) :
  R Unit (enter p) (enter p)
  := by
  -- what comes after the log may have been told
  have henter : R Unit
      (do modify fun w => { w with phase := some p }; record (.entered p))
      (do modify fun w => { w with phase := some p }; record (.entered p)) := by
    apply h.binds
    · apply h.modifies
      · intro _ _
        rfl
      · intro _ hraised
        exact hraised
    · intro _
      apply h.records
  apply h.consults
  · intro _ _
    rfl
  · intro _ _
    rfl
  · intro w
    dsimp only
    split
    · split
      · apply h.binds (h.tells _)
        intro _
        exact henter
      · exact henter
    · exact henter

theorem asks :
  R Bool isRaised isRaised
  := by
  apply h.consults
  · intro _ _
    rfl
  · intro _ _
    rfl
  · intro w
    apply h.returns w.raised

theorem raisesIf (b : Bool) :
  R PUnit (modify (World.raiseIf b c)) (modify (World.raiseIf b c'))
  := by
  cases b with
  | true => exact h.raises
  | false =>
    apply h.modifies
    · intro _ _
      rfl
    · intro _ hraised
      exact hraised

theorem ifRaised {m₁ m₁' m₂ m₂' : Session σ α} (h₁ : R α m₁ m₁') (h₂ : R α m₂ m₂') :
  R α (do if ← isRaised then m₁ else m₂) (do if ← isRaised then m₁' else m₂')
  := by
  apply h.binds h.asks
  intro raised
  cases raised with
  | true => exact h₁
  | false => exact h₂

theorem plays (activity : Activity σ α) :
  R (Option α) (play c activity) (play c' activity)
  := by
  induction activity with
  | finish s outcome =>
    apply h.binds (h.settles s)
    intro _
    apply h.returns
  | hang s =>
    apply h.binds (h.settles s)
    intro _
    apply h.binds (h.suspends none)
    intro _
    apply h.returns
  | panic s =>
    apply h.binds (h.settles s)
    intro _
    apply h.cuts
  | raise rest ih =>
    apply h.binds h.raises
    intro _
    exact ih
  | pause millis s rest ih =>
    apply h.binds (h.settles s)
    intro _
    apply h.binds (h.suspends (some millis))
    intro wake
    cases wake with
    | raised => apply h.returns
    | elapsed => exact ih

theorem races {begin begin' : Session σ (Activity σ α)} (hbegin : R _ begin begin') :
  R (Option α) (race c begin) (race c' begin')
  := h.ifRaised (h.returns none) (h.binds hbegin h.plays)

theorem concludes (e : α → Event) (outcome : Option α) :
  R (Option α) (conclude e outcome) (conclude e outcome)
  := by
  cases outcome with
  | none => apply h.returns
  | some a =>
    apply h.binds (h.records (e a))
    intro _
    apply h.returns

/-! ### Attempts -/

/-- A session that cannot fail. -/
theorem succeeds {m m' : Session σ α} (hm : R α m m') :
  R (Except RunFault α) (liftM m : Attempt σ α).run (liftM m' : Attempt σ α).run
  := by
  have hrun : ∀ m : Session σ α, (liftM m : Attempt σ α).run = m >>= fun a => pure (.ok a) := by
    intro m
    apply ExceptT.run_lift
  rw [hrun, hrun]
  apply h.binds hm
  intro a
  apply h.returns

/-- A session that cannot fail, and then an attempt. -/
theorem lifts {m m' : Session σ α} {f f' : α → Attempt σ β} (hm : R α m m')
    (hf : ∀ a, R (Except RunFault β) (f a).run (f' a).run) :
  R (Except RunFault β) (liftM m >>= f : Attempt σ β).run (liftM m' >>= f' : Attempt σ β).run
  := by
  rw [Attempt.run_lift_bind, Attempt.run_lift_bind]
  apply h.binds hm hf

/-- One attempt after the other. -/
theorem attempts {m m' : Attempt σ α} {f f' : α → Attempt σ β}
    (hm : R (Except RunFault α) m.run m'.run)
    (hf : ∀ a, R (Except RunFault β) (f a).run (f' a).run) :
  R (Except RunFault β) (m >>= f).run (m' >>= f').run
  := by
  rw [ExceptT.run_bind, ExceptT.run_bind]
  apply h.binds hm
  rintro (fault | a)
  · apply h.returns
  · apply hf

theorem loops {f f' : α → Attempt σ PUnit}
    (hf : ∀ a, R (Except RunFault PUnit) (f a).run (f' a).run) :
    ∀ l : List α, R (Except RunFault PUnit) (l.forM f).run (l.forM f').run
  | [] => h.returns _
  | a :: rest => h.attempts (hf a) fun _ => loops hf rest

end Congruence

end Session

end ServiceHarness
