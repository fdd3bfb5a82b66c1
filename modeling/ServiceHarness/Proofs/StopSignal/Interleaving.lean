import Mathlib.Data.List.Induction
import ServiceHarness.StopSignal

/-!
# Steps on a channel in any order

What the tokens and waiters of a channel tell after any steps on it.  It depends on nothing but
whether the sender has raised the signal while it was there (`RaisedIn`): every token tells just
that, and so does every waiter that has not been ready, whenever it was made and polled before
(`steps_interleaved`).  A waiter that has stopped looking cannot miss the signal, as it has seen the
sender gone (`Candid`).
-/

namespace ServiceHarness

/-! ### What the steps tell -/

/-- The sender raises the signal in the course of the steps, while it is still there. -/
def RaisedIn (steps : List ChannelStep) : Prop :=
  ∃ before after, steps = before ++ .raise :: after ∧ .dropSender ∉ before

/-- Whether a waiter is made by the step. -/
def ChannelStep.isWait : ChannelStep → Bool
  | .wait _ => true
  | _ => false

theorem not_raisedIn_nil :
  ¬ RaisedIn []
  := by
  rintro ⟨before, after, h, -⟩
  cases before with
  | nil => cases h
  | cons => cases h

/-- The first step raises the signal, or leaves the sender there for a later one. -/
theorem raisedIn_cons {s : ChannelStep} {rest : List ChannelStep} :
  RaisedIn (s :: rest) ↔ s = .raise ∨ s ≠ .dropSender ∧ RaisedIn rest
  := by
  constructor
  · rintro ⟨before, after, h, hdrop⟩
    cases before with
    | nil =>
      left
      exact (List.cons.inj h).1
    | cons s' before =>
      right
      obtain ⟨rfl, rfl⟩ := List.cons.inj h
      rw [List.mem_cons, not_or] at hdrop
      exact ⟨Ne.symm hdrop.1, before, after, rfl, hdrop.2⟩
  · rintro (rfl | ⟨hs, before, after, rfl, hdrop⟩)
    · exact ⟨[], rest, rfl, List.not_mem_nil⟩
    · use s :: before, after, rfl
      rw [List.mem_cons, not_or]
      exact ⟨hs.symm, hdrop⟩

instance RaisedIn.decidable : DecidablePred RaisedIn
  | [] => isFalse not_raisedIn_nil
  | _ :: rest =>
    have := RaisedIn.decidable rest
    decidable_of_iff _ raisedIn_cons.symm

/-- A signal that has been raised stays so. -/
theorem RaisedIn.append {steps : List ChannelStep} (h : RaisedIn steps)
    (more : List ChannelStep) :
  RaisedIn (steps ++ more)
  := by
  obtain ⟨before, after, rfl, hdrop⟩ := h
  use before, after ++ more, by simp, hdrop

/-- Once the sender has gone the signal is not raised any more. -/
theorem RaisedIn.of_append {steps more : List ChannelStep} (hdrop : .dropSender ∈ steps)
    (h : RaisedIn (steps ++ more)) :
  RaisedIn steps
  := by
  obtain ⟨before, after, h, hbefore⟩ := h
  obtain ⟨mid, rfl, -⟩ | ⟨mid, rfl, hafter⟩ := List.append_eq_append_iff.mp h
  · -- the sender would have gone before
    exfalso
    apply hbefore
    exact List.mem_append_left mid hdrop
  · cases mid with
    | nil =>
      exfalso
      apply hbefore
      simpa using hdrop
    | cons s mid =>
      obtain ⟨rfl, -⟩ := List.cons.inj hafter
      exact ⟨before, mid, rfl, hbefore⟩

namespace Channel

/-! ### One step after the other -/

/-- The channel after a list of steps. -/
def after (c : Channel) : List ChannelStep → Channel
  | [] => c
  | s :: rest => (c.step s).2.after rest

theorem after_append (c : Channel) (pre post : List ChannelStep) :
  c.after (pre ++ post) = (c.after pre).after post
  := by
  induction pre generalizing c with
  | nil => rfl
  | cons s pre ih => apply ih

theorem length_steps (c : Channel) (steps : List ChannelStep) :
  (c.steps steps).length = steps.length
  := by
  induction steps generalizing c with
  | nil => rfl
  | cons s rest ih => rw [Channel.steps, List.length_cons, List.length_cons, ih]

/-- Steps are answered without regard to those that follow them. -/
theorem steps_append (c : Channel) (pre post : List ChannelStep) :
  c.steps (pre ++ post) = c.steps pre ++ (c.after pre).steps post
  := by
  induction pre generalizing c with
  | nil => rfl
  | cons s pre ih =>
    rw [List.cons_append, steps, steps, ih]
    rfl

/-! ### The signal -/

/-- What a step does to the signal. -/
theorem signal_step (c : Channel) (s : ChannelStep) :
  (c.step s).2.signal = match s with
    | .raise => c.signal.raise
    | .dropSender => c.signal.dropSender
    | _ => c.signal
  := by
  cases s with
  | poll i =>
    rw [step]
    split
    · rfl
    · rfl
  | _ => rfl

/-- The signal is raised if it was so at first, or its sender was there and has raised it. -/
theorem raised_after (c : Channel) (steps : List ChannelStep) :
  (c.after steps).signal.raised = true
    ↔ c.signal.raised = true ∨ c.signal.senderAlive = true ∧ RaisedIn steps
  := by
  induction steps generalizing c with
  | nil => simp [after, not_raisedIn_nil]
  | cons s rest ih =>
    rw [after, ih, signal_step, raisedIn_cons]
    cases s with
    | raise =>
      cases halive : c.signal.senderAlive <;> simp [StopSignal.raise, halive]
    | dropSender => simp [StopSignal.dropSender]
    | _ => simp

theorem raised_after_new (steps : List ChannelStep) :
  (({} : Channel).after steps).signal.raised = decide (RaisedIn steps)
  := by
  rw [Bool.eq_iff_iff, raised_after]
  simp

/-! ### The waiters -/

/-- A waiter has stopped looking only if there is nothing to see any more. -/
def Candid (c : Channel) : Prop :=
  .waiting .idle ∈ c.waiters → c.signal.sight = .closed

/-- A closed signal stays closed. -/
theorem sight_step {c : Channel} (h : c.signal.sight = .closed) (s : ChannelStep) :
  (c.step s).2.signal.sight = .closed
  := by
  have hsignal : c.signal.raised = false ∧ c.signal.senderAlive = false := by
    rw [StopSignal.sight] at h
    revert h
    cases c.signal.raised <;> cases c.signal.senderAlive <;> simp
  rw [signal_step]
  cases s with
  | raise => simp [StopSignal.raise, StopSignal.sight, hsignal]
  | dropSender => simp [StopSignal.dropSender, StopSignal.sight, hsignal]
  | _ => apply h

/-- A waiter stops looking when it sees the signal closed. -/
theorem sight_of_idle {s : StopSignal} {w : Waiter} (h : (w.poll s).2 = .waiting .idle) :
  w = .waiting .idle ∨ s.sight = .closed
  := by
  cases w with
  | finished => cases h
  | waiting v =>
    cases v with
    | idle =>
      left
      rfl
    | watching =>
      right
      cases hsight : s.sight with
      | closed => rfl
      | raised => simp [Waiter.poll, Vigil.poll, hsight] at h
      | unchanged => simp [Waiter.poll, Vigil.poll, hsight] at h

theorem Candid.step {c : Channel} (h : c.Candid) (s : ChannelStep) :
  (c.step s).2.Candid
  := by
  intro hidle
  cases s with
  | poll i =>
    rw [Channel.step] at hidle ⊢
    split at hidle
    case h_1 => apply h hidle
    case h_2 w hw =>
      obtain hmem | hpoll := List.mem_or_eq_of_mem_set hidle
      · apply h hmem
      · obtain rfl | hclosed := sight_of_idle hpoll.symm
        · apply h (List.mem_of_getElem? hw)
        · apply hclosed
  | wait token =>
    obtain hmem | hnew := List.mem_append.mp hidle
    · apply h hmem
    · simp at hnew
  | raise => apply sight_step (h hidle) .raise
  | dropSender => apply sight_step (h hidle) .dropSender
  | clone token => apply h hidle
  | isRaised token => apply h hidle

theorem Candid.after {c : Channel} (h : c.Candid) (steps : List ChannelStep) :
  (c.after steps).Candid
  := by
  induction steps generalizing c with
  | nil => apply h
  | cons s rest ih => apply ih (h.step s)

/-- A waiter that has not been ready finds the signal as it is. -/
theorem Candid.poll {c : Channel} (h : c.Candid) {v : Vigil} (hv : .waiting v ∈ c.waiters) :
  ((Waiter.waiting v).poll c.signal).1 = if c.signal.raised then .ready else .pending
  := by
  have hpoll : ((Waiter.waiting v).poll c.signal).1 = (v.poll c.signal).1 := by
    rw [Waiter.poll]
    split
    case h_1 hready => rw [hready]
    case h_2 hfound => rw [hfound]
  rw [hpoll]
  cases v with
  | watching => apply Vigil.poll_watching
  | idle =>
    have hclosed := h hv
    rw [StopSignal.sight] at hclosed
    cases hraised : c.signal.raised with
    | true =>
      rw [if_pos hraised] at hclosed
      cases hclosed
    | false => rfl

/-- Every wait makes a waiter, and nothing else does. -/
theorem length_waiters_after (c : Channel) (steps : List ChannelStep) :
  (c.after steps).waiters.length = c.waiters.length + steps.countP ChannelStep.isWait
  := by
  induction steps generalizing c with
  | nil => rfl
  | cons s rest ih =>
    rw [after, ih, List.countP_cons]
    cases s with
    | poll i =>
      rw [step]
      split
      · rfl
      · simp [ChannelStep.isWait]
    | wait token =>
      simp only [step, List.length_append, ChannelStep.isWait]
      simp only [List.length_singleton, if_true]
      omega
    | _ => rfl

end Channel

/-! ### The answers -/

/-- What a step is answered after other steps on a new channel. -/
def answerAfter (steps : List ChannelStep) (s : ChannelStep) : Answer :=
  ((({} : Channel).after steps).step s).1

/-- The waiter is found ready in the course of the steps. -/
def ReadyIn (waiter : Nat) (steps : List ChannelStep) : Prop :=
  (.poll waiter, .polled .ready) ∈ steps.zip (({} : Channel).steps steps)

instance (waiter : Nat) (steps : List ChannelStep) : Decidable (ReadyIn waiter steps) :=
  inferInstanceAs (Decidable (_ ∈ _))

/-- A step has its place among the others with its answer, whatever follows it. -/
theorem getElem?_steps (pre : List ChannelStep) (s : ChannelStep) (post : List ChannelStep) :
  (({} : Channel).steps (pre ++ s :: post))[pre.length]? = some (answerAfter pre s)
  := by
  rw [Channel.steps_append, List.getElem?_append_right (Nat.le_of_eq (Channel.length_steps _ _)),
    Channel.length_steps, Nat.sub_self]
  rfl

theorem readyIn_concat {waiter : Nat} {steps : List ChannelStep} {s : ChannelStep} :
  ReadyIn waiter (steps ++ [s])
    ↔ ReadyIn waiter steps ∨ s = .poll waiter ∧ answerAfter steps s = .polled .ready
  := by
  rw [ReadyIn, Channel.steps_append, List.zip_append (Channel.length_steps _ _).symm,
    List.mem_append]
  apply or_congr Iff.rfl
  change _ ∈ [(s, answerAfter steps s)] ↔ _
  rw [List.mem_singleton, Prod.mk.injEq]
  apply and_congr eq_comm eq_comm

namespace Channel

/-- A waiter is finished by a poll that finds it ready. -/
theorem ready_of_finished {s : StopSignal} {w : Waiter} (h : (w.poll s).2 = .finished) :
  w = .finished ∨ (w.poll s).1 = .ready
  := by
  cases w with
  | finished =>
    left
    rfl
  | waiting v =>
    right
    rw [Waiter.poll] at h ⊢
    split at h
    case h_1 hready => rfl
    case h_2 => cases h

/-- A waiter that is finished after a step was so before, or the step found it ready. -/
theorem finished_step {c : Channel} {s : ChannelStep} {i : Nat}
    (h : .finished ∈ (c.step s).2.waiters[i]?) :
  .finished ∈ c.waiters[i]? ∨ s = .poll i ∧ (c.step s).1 = .polled .ready
  := by
  cases s with
  | poll j =>
    rw [step] at h ⊢
    cases hw : c.waiters[j]? with
    | none =>
      rw [hw] at h
      left
      exact h
    | some w =>
      rw [hw] at h
      dsimp only at h ⊢
      by_cases hij : j = i
      · obtain rfl := hij
        rw [List.getElem?_set_self (List.getElem?_eq_some_iff.mp hw).1] at h
        obtain rfl | hready := ready_of_finished (Option.some.inj h)
        · left
          exact hw
        · right
          rw [hready]
          exact ⟨rfl, rfl⟩
      · rw [List.getElem?_set_ne hij] at h
        left
        exact h
  | wait token =>
    left
    change .finished ∈ (c.waiters ++ [Waiter.waiting .watching])[i]? at h
    by_cases hi : i < c.waiters.length
    · rwa [List.getElem?_append_left hi] at h
    · rw [List.getElem?_append_right (by omega)] at h
      simpa using List.mem_of_getElem? h
  | _ =>
    left
    exact h

/-- A waiter is finished only if it has been found ready. -/
theorem readyIn_of_finished {steps : List ChannelStep} {i : Nat} :
  .finished ∈ (({} : Channel).after steps).waiters[i]? → ReadyIn i steps
  := by
  induction steps using List.reverseRecOn with
  | nil => simp [after]
  | append_singleton pre s ih =>
    rw [after_append]
    intro h
    apply readyIn_concat.mpr
    obtain hbefore | hnow := finished_step h
    · left
      apply ih hbefore
    · right
      exact hnow

theorem candid_new :
  ({} : Channel).Candid
  := by
  intro h
  cases h

/-- What a waiter finds after the steps, if it has been made and not been ready in their course. -/
theorem answerAfter_poll {steps : List ChannelStep} {i : Nat}
    (hmade : i < steps.countP ChannelStep.isWait) (hready : ¬ ReadyIn i steps) :
  answerAfter steps (.poll i) = .polled (if RaisedIn steps then .ready else .pending)
  := by
  have hlength := length_waiters_after {} steps
  have hi : i < (({} : Channel).after steps).waiters.length := by
    rw [hlength]
    simpa using hmade
  have hw := List.getElem?_eq_getElem hi
  cases hwaiter : (({} : Channel).after steps).waiters[i] with
  | finished =>
    exfalso
    apply hready
    apply readyIn_of_finished
    rw [hw, hwaiter]
    rfl
  | waiting v =>
    rw [hwaiter] at hw
    rw [answerAfter, step, hw]
    dsimp only
    rw [(candid_new.after steps).poll (List.mem_of_getElem? hw), raised_after_new]
    simp

/-- No poll finds a waiter ready as long as the signal is not raised. -/
theorem raisedIn_of_ready {steps : List ChannelStep} {i : Nat}
    (h : answerAfter steps (.poll i) = .polled .ready) :
  RaisedIn steps
  := by
  by_contra hraised
  have hsignal : (({} : Channel).after steps).signal.raised = false := by
    rw [raised_after_new]
    simpa using hraised
  rw [answerAfter, step] at h
  cases hw : (({} : Channel).after steps).waiters[i]? with
  | none =>
    rw [hw] at h
    cases h
  | some w =>
    rw [hw] at h
    cases w with
    | finished => cases h
    | waiting v =>
      dsimp only at h
      rw [(candid_new.after steps).poll (List.mem_of_getElem? hw), hsignal] at h
      cases h

/-- No waiter has been ready as long as the signal is not raised. -/
theorem raisedIn_of_readyIn {steps : List ChannelStep} {i : Nat} :
  ReadyIn i steps → RaisedIn steps
  := by
  induction steps using List.reverseRecOn with
  | nil =>
    intro h
    cases h
  | append_singleton pre s ih =>
    intro h
    obtain hbefore | ⟨rfl, hready⟩ := readyIn_concat.mp h
    · apply (ih hbefore).append
    · apply (raisedIn_of_ready hready).append

/-- A token tells whether the signal is raised. -/
theorem answerAfter_isRaised (steps : List ChannelStep) (token : Nat) :
  answerAfter steps (.isRaised token) = .flag (decide (RaisedIn steps))
  := by
  rw [answerAfter, step, raised_after_new]

/-- After any steps on a new channel, and whatever follows them: every token tells whether the sender
has raised the signal while it was there, and goes on to tell so; and so does every waiter that has
been made and not been ready.  If the sender has gone without that, no waiter is ever ready. -/
theorem steps_interleaved (steps more : List ChannelStep) :
  (∀ s, (({} : Channel).steps (steps ++ s :: more))[steps.length]? = some (answerAfter steps s))
    ∧ (∀ token, answerAfter steps (.isRaised token) = .flag (decide (RaisedIn steps)))
    ∧ (∀ token later, answerAfter steps (.isRaised token) = .flag true →
      answerAfter (steps ++ more) (.isRaised later) = .flag true)
    ∧ (∀ waiter < steps.countP ChannelStep.isWait, ¬ ReadyIn waiter steps →
      answerAfter steps (.poll waiter) = .polled (if RaisedIn steps then .ready else .pending))
    ∧ (.dropSender ∈ steps → ¬ RaisedIn steps →
      ∀ waiter < (steps ++ more).countP ChannelStep.isWait,
        answerAfter (steps ++ more) (.poll waiter) = .polled .pending)
  := by
  constructor
  · intro s
    apply getElem?_steps
  · constructor
    · apply answerAfter_isRaised
    · constructor
      · intro token later h
        rw [answerAfter_isRaised, Answer.flag.injEq, decide_eq_true_eq] at h ⊢
        apply h.append
      · constructor
        · intro waiter hmade hready
          apply answerAfter_poll hmade hready
        · intro hdrop hraised waiter hmade
          have hlater : ¬ RaisedIn (steps ++ more) := fun h => hraised (h.of_append hdrop)
          have hready : ¬ ReadyIn waiter (steps ++ more) := fun h => hlater (raisedIn_of_readyIn h)
          rw [answerAfter_poll hmade hready, if_neg hlater]

/-- A waiter that was polled in vain before the signal was raised is ready after the sender has gone,
and so are a later one and a token that was cloned only then; one whose sender went without that is
pending, though raising is tried once more. -/
theorem steps_interleaved_parked :
  answerAfter [.wait 0, .poll 0, .raise, .dropSender, .clone 0, .wait 1] (.poll 0) = .polled .ready
    ∧ answerAfter [.wait 0, .poll 0, .raise, .dropSender, .clone 0, .wait 1] (.poll 1)
      = .polled .ready
    ∧ answerAfter ([.wait 0, .poll 0, .raise, .dropSender, .clone 0, .wait 1] ++ [.poll 0])
      (.isRaised 1) = .flag true
    ∧ answerAfter ([.wait 0, .poll 0, .dropSender, .poll 0] ++ [.raise, .poll 0]) (.poll 0)
      = .polled .pending
  := by
  obtain ⟨-, htoken, hstays, hpoll, -⟩ := steps_interleaved
    [.wait 0, .poll 0, .raise, .dropSender, .clone 0, .wait 1] [.poll 0]
  obtain ⟨-, -, -, -, hgone⟩ := steps_interleaved
    [.wait 0, .poll 0, .dropSender, .poll 0] [.raise, .poll 0]
  have hraised : RaisedIn [.wait 0, .poll 0, .raise, .dropSender, .clone 0, .wait 1] := by decide
  constructor
  · rw [hpoll 0 (by decide) (by decide), if_pos hraised]
  · constructor
    · rw [hpoll 1 (by decide) (by decide), if_pos hraised]
    · constructor
      · apply hstays 1 1
        rw [htoken, decide_eq_true hraised]
      · apply hgone (by decide) (by decide) 0 (by decide)

end Channel

end ServiceHarness
