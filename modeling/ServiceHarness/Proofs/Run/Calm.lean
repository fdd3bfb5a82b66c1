import ServiceHarness.Proofs.Run.Driving

/-!
# Runs that nothing disturbs

Where neither a port nor the sender raises the stop signal before the caller drops the run, it is not
raised: `perform_mute`.  Of the ports that is said call by call (`Ports.Mute`).
-/

namespace ServiceHarness

variable {σ α : Type} {P : Ports σ} {c : Controls}

/-- The activity does not raise the stop signal. -/
def Activity.Mute : Activity σ α → Prop
  | .finish _ _ => True
  | .hang _ => True
  | .panic _ => True
  | .raise _ => False
  | .pause _ _ rest => rest.Mute

/-- No call of the ports raises the stop signal. -/
structure Ports.Mute (P : Ports σ) : Prop where
  /-- To execute a command does not. -/
  execute : ∀ s t i, (P.execute s t i).Mute
  /-- To launch a service does not. -/
  launch : ∀ s t service i, (P.launch s t service i).raises = false
  /-- To interrupt one does not. -/
  interrupt : ∀ s t h, (P.interrupt s t h).raises = false
  /-- To probe a URL does not. -/
  probe : ∀ s t url, (P.probe s t url).Mute

/-- The sender does not raise the stop signal before the caller drops the run. -/
def Controls.Mute (c : Controls) : Prop :=
  ∀ t, c.sender = .raises t → c.dropAt < t

/-- The stop signal is not raised. -/
def World.Calm (w : World σ) : Prop :=
  w.raised = false

namespace Session

theorem tell_mute (n : Notice) :
  Maintains World.Calm World.Calm (tell (σ := σ) n)
  := fun _ hw => hw

theorem enter_mute (p : Phase) :
  Maintains World.Calm World.Calm (enter (σ := σ) p)
  := by
  intro w hw
  rw [enter, ends_bind, ends_get]
  split
  · split
    · exact hw
    · exact hw
  · exact hw

theorem suspend_mute (hc : c.Mute) (millis : Option Nat) :
  Maintains World.Calm World.Calm (suspend c millis : Session σ Wake)
  := by
  intro w hw
  apply Ends.mono (suspend_ends c millis w)
  · rintro (_ | _) w' hwake
    · obtain ⟨-, _, -, rfl, -⟩ := hwake
      exact hw
    · obtain ⟨hraised | ⟨u, hu, hsender⟩, -⟩ := hwake
      · rw [hw] at hraised
        cases hraised
      · have hlate := hc u hsender
        omega
  · rintro _ w' ⟨-, -, rfl⟩
    exact hw

/-- To bring the ports into another state raises nothing. -/
theorem settle_mute (s : σ) :
  Maintains World.Calm World.Calm (modify fun w => { w with ports := s } : Session σ PUnit)
  := fun _ hw => hw

theorem play_mute (hc : c.Mute) :
    ∀ activity : Activity σ α, activity.Mute → Maintains World.Calm World.Calm (play c activity)
  | .finish _ _, _ => fun _ hw => hw
  | .panic _, _ => fun _ hw => hw
  | .hang s, _ => by
    apply (settle_mute s).bind
    intro _
    apply (suspend_mute hc none).bind
    intro _
    apply maintains_pure
  | .pause millis s rest, hmute => by
    apply (settle_mute s).bind
    intro _
    apply (suspend_mute hc (some millis)).bind
    rintro (_ | _)
    · apply play_mute hc rest hmute
    · apply maintains_pure

/-- A race is as calm as the activity that it begins. -/
theorem race_mute (hc : c.Mute) {begin : Session σ (Activity σ α)} {e : α → Event}
    (hbegin : ∀ w : World σ, w.Calm → Ends begin w (fun activity w' => activity.Mute ∧ w'.Calm)
      (fun _ _ => False)) :
  Maintains World.Calm World.Calm (race c begin >>= conclude e)
  := by
  apply Maintains.bind
  · intro w hw
    rw [race, ends_bind, ends_isRaised]
    split
    · exact hw
    · rw [ends_bind]
      apply Ends.mono (hbegin w hw)
      · rintro activity w' ⟨hmute, hw'⟩
        apply play_mute hc activity hmute w' hw'
      · intro _ _ hcut
        exact hcut.elim
  · rintro (_ | a)
    · apply maintains_pure
    · exact fun _ hw => hw

end Session

namespace Run

theorem stage_mute (hP : P.Mute) (hc : c.Mute) (phase : Phase) (n : Notice) (i : Invocation)
    (failure : Int → RunFault) :
  Attempt.Maintains World.Calm (fun _ => World.Calm) World.Calm (stage P c phase n i failure)
  := by
  apply Attempt.Maintains.bind
  · apply Attempt.maintains_lift
    apply Session.race_mute hc
    intro w hw
    exact ⟨hP.execute _ _ _, hw⟩
  · rintro (_ | fault | completion)
    · exact fun _ hw => hw
    · exact fun _ hw => hw
    · dsimp only
      split
      · apply Attempt.maintains_pure
      · intro w hw
        rw [Attempt.ends_bind, Attempt.ends_lift, Session.ends_isRaised]
        split
        · exact hw
        · exact hw

theorem launchStep_mute (hP : P.Mute) (plan : Plan) (service : Service) :
  Attempt.Maintains World.Calm (fun _ => World.Calm) World.Calm (launchStep P c plan service)
  := by
  intro w hw
  rw [launchStep, Attempt.ends_bind, Attempt.ends_lift, Session.ends_isRaised]
  split
  case isTrue => exact hw
  case isFalse =>
    rw [Attempt.ends_bind, Attempt.ends_lift, launch]
    simp only [Session.ends_bind, Session.ends_tell, Session.ends_get, Session.ends_modify,
      hP.launch]
    split
    · exact hw
    · exact hw

theorem awaitFrom_mute (hP : P.Mute) (hc : c.Mute) (url : String) (interval : Nat) :
    ∀ patience attempts : Nat, Session.Maintains World.Calm World.Calm
      (awaitFrom P c url interval patience attempts)
  | 0, _ => fun _ hw => hw
  | patience + 1, attempts => by
    intro w hw
    rw [awaitFrom, Session.ends_bind, Session.ends_isRaised]
    split
    case isTrue => exact hw
    case isFalse =>
      apply Session.Maintains.bind _ _ w hw
      · apply Session.race_mute hc
        intro w hw
        exact ⟨hP.probe _ _ _, hw⟩
      · rintro (_ | (reason | reason) | _)
        · apply Session.maintains_pure
        · apply (Session.suspend_mute hc (some interval)).bind
          rintro (_ | _)
          · apply awaitFrom_mute hP hc url interval patience
          · apply Session.maintains_pure
        · apply Session.maintains_pure
        · exact fun _ hw => hw

theorem drive_mute (hP : P.Mute) (hc : c.Mute) (plan : Plan) :
  Attempt.Maintains World.Calm (fun _ => World.Calm) World.Calm (drive P c plan)
  := by
  apply drive_maintains_of_steps
  case henter => exact Session.enter_mute
  case htell => exact fun n _ => Session.tell_mute n
  case hstage =>
    intro phase n i failure _ _
    apply stage_mute hP hc
  case hlaunch => apply launchStep_mute hP
  case hawait =>
    apply Attempt.Maintains.bind
    · apply Attempt.maintains_lift
      apply awaitFrom_mute hP hc
    · rintro (fault | attempts)
      · exact fun _ hw => hw
      · apply Attempt.maintains_pure

theorem stopAll_mute (hP : P.Mute) :
    ∀ (handles : List Handle) (t : Teardown) (w : World σ), w.Calm →
      (stopAll P c handles t w).2.Calm
  | [], _, _, hw => hw
  | handle :: rest, t, w, hw => by
    apply stopAll_mute hP rest (t.add handle (stop P c handle w).1) (stop P c handle w).2
    rw [stop, hP.interrupt]
    dsimp only
    generalize (P.interrupt w.ports w.now handle).result = result
    cases answerNotice handle result with
    | none => exact hw
    | some n => exact hw

/-- Where neither the ports nor the sender raises the signal before the run is dropped, it is not
raised. -/
theorem perform_mute (hP : P.Mute) (hc : c.Mute) (plan : Plan) (runId : String) (ports : σ) :
  (perform P c plan runId ports).world.raised = false
  := by
  have hinitial : (World.initial c ports).Calm := by
    rw [World.initial, if_neg]
    · rfl
    · intro hsender
      have hlate := hc 0 hsender
      omega
  apply perform_maintains (I := World.Calm)
  case htell => exact fun n _ => Session.tell_mute n
  case hteardown =>
    intro w hw
    apply stopAll_mute hP w.live {} w hw
  case henter => exact Session.enter_mute
  case hinitial => exact hinitial
  case hdrive =>
    apply drive_mute hP hc plan
    exact hinitial

end Run

end ServiceHarness
