import ServiceHarness.Proofs.Run.Guarded
import ServiceHarness.Proofs.Session.Maintaining

/-!
# Invariants of runs

`drive_maintains_of_steps` says what it takes for the part of a run before its teardown to maintain
an invariant: each of its steps has to.  For an invariant that nothing plain breaks
(`Attempt.StaysPlain`) that is less, as launching a service and waiting for the instance are plain
(`drive_maintains`).  `perform_maintains` takes what that part leads to through the teardown, and to
where the run is given up.
-/

namespace ServiceHarness

variable {σ α β : Type} {c : Controls} {w : World σ}

/-! ### Plain events -/

/-- Whether the event neither belongs to a command nor enters a phase, nor tells that a phase
does not follow, nor interrupts a service, nor raises the signal. -/
def Event.isPlain : Event → Bool
  | .noticed (.unexpectedPhase ..) => false
  | .noticed _ => true
  | .launched .. => true
  | .probing _ => true
  | .probed _ => true
  | _ => false

/-- All of the events are plain. -/
def Trace.Plain (ds : List Event) : Prop :=
  ∀ e ∈ ds, e.isPlain = true

theorem Trace.Plain.append {ds ds' : List Event} (h : Trace.Plain ds) (h' : Trace.Plain ds') :
  Trace.Plain (ds ++ ds')
  := by
  intro e he
  obtain he | he := List.mem_append.mp he
  · apply h e he
  · apply h' e he

/-- The session does nothing but what is plain, however it ends. -/
def Session.StaysPlain (c : Controls) (m : Session σ α) (w : World σ) : Prop :=
  Session.Does c m w (fun _ ds _ => Trace.Plain ds) (fun _ ds _ => Trace.Plain ds)

/-- The attempt does nothing but what is plain, however it ends. -/
def Attempt.StaysPlain (c : Controls) (m : Attempt σ α) (w : World σ) : Prop :=
  Attempt.Does c m w (fun _ ds _ => Trace.Plain ds) (fun _ ds _ => Trace.Plain ds)
    (fun _ ds _ => Trace.Plain ds)

theorem Session.StaysPlain.bind {m : Session σ α} {f : α → Session σ β} (h : StaysPlain c m w)
    (hf : ∀ a w', StaysPlain c (f a) w') :
  StaysPlain c (m >>= f) w
  := by
  apply Session.Does.bind
  apply Session.Does.mono h
  · intro a ds w' hds
    apply Session.Does.mono (hf a w')
    · intro _ _ _ hds'
      apply hds.append hds'
    · intro _ _ _ hds'
      apply hds.append hds'
  · intro _ _ _ hds
    exact hds

theorem Attempt.StaysPlain.bind {m : Attempt σ α} {f : α → Attempt σ β} (h : StaysPlain c m w)
    (hf : ∀ a w', StaysPlain c (f a) w') :
  StaysPlain c (m >>= f) w
  := by
  apply Attempt.Does.bind
  apply Attempt.Does.mono h
  · intro a ds w' hds
    apply Attempt.Does.mono (hf a w')
    · intro _ _ _ hds'
      apply hds.append hds'
    · intro _ _ _ hds'
      apply hds.append hds'
    · intro _ _ _ hds'
      apply hds.append hds'
  · intro _ _ _ hds
    exact hds
  · intro _ _ _ hds
    exact hds

theorem Attempt.staysPlain_lift {m : Session σ α} (h : Session.StaysPlain c m w) :
  Attempt.StaysPlain c (liftM m) w
  := Attempt.does_lift h

theorem Session.staysPlain_pure (a : α) :
  Session.StaysPlain c (pure a) w
  := by
  apply Session.does_pure
  intro _ he
  cases he

theorem Attempt.staysPlain_pure (a : α) :
  Attempt.StaysPlain c (pure a) w
  := by
  apply Attempt.does_pure
  intro _ he
  cases he

theorem Attempt.staysPlain_throw (fault : RunFault) :
  Attempt.StaysPlain c (throw fault : Attempt σ α) w
  := by
  apply Attempt.does_throw
  intro _ he
  cases he

theorem Session.staysPlain_tell {n : Notice} (h : Event.isPlain (.noticed n) = true) :
  Session.StaysPlain c (Session.tell n) w
  := by
  apply Session.does_tell
  intro e he
  rw [List.mem_singleton.mp he]
  exact h

/-- What nothing plain breaks, a plain attempt maintains. -/
theorem Attempt.maintains_of_plain {I K : World σ → Prop} {F : RunFault → World σ → Prop}
    {m : Attempt σ α} (h : ∀ w, StaysPlain c m w)
    (happend : ∀ w ds w', I w → Moves c w w' → w'.deeds = w.deeds ++ ds → Trace.Plain ds → I w')
    (hfail : ∀ fault w, I w → F fault w) (hcut : ∀ w, I w → K w) :
  Maintains I F K m
  := by
  intro w hw
  apply Attempt.Ends.mono (h w)
  · rintro a w' ⟨hmoves, ds, hds, hplain⟩
    apply happend w ds w' hw hmoves hds hplain
  · rintro fault w' ⟨hmoves, ds, hds, hplain⟩
    apply hfail
    apply happend w ds w' hw hmoves hds hplain
  · rintro k w' ⟨hmoves, ds, hds, hplain⟩
    apply hcut
    apply happend w ds w' hw hmoves hds hplain

/-- Whether commands are executed in the phase. -/
def Phase.Executes (p : Phase) : Prop :=
  p = .building ∨ p = .workspaceTesting ∨ p = .integrationTesting

namespace Run

/-! ### Launching and waiting -/

/-- Launching a service is plain. -/
theorem launchStep_plain (P : Ports σ) (c : Controls) (plan : Plan) (service : Service)
    (w : World σ) :
  Attempt.StaysPlain c (launchStep P c plan service) w
  := by
  apply Attempt.Does.bind
  apply Attempt.does_lift
  apply Session.does_isRaised
  split
  case isTrue =>
    apply Attempt.staysPlain_throw
  case isFalse hraised =>
    rw [Bool.not_eq_true] at hraised
    apply Attempt.Does.bind
    apply Attempt.does_lift
    apply Session.Does.uncut (launch_does P plan service hraised)
    rintro (fault | pid) ds w' h
    · apply Attempt.does_throw
      rw [h]
      simp [Trace.Plain, Event.isPlain]
    · apply Attempt.does_pure
      obtain ⟨handle, -, rfl⟩ := h
      simp [Trace.Plain, Event.isPlain]

/-- Probing once is plain. -/
theorem probe_plain (P : Ports σ) (c : Controls) (url : String) (w : World σ) :
  Session.StaysPlain c (Session.race c (beginProbe P url) >>= Session.conclude .probed) w
  := by
  apply Session.Does.mono (probe_does P c url w)
  · rintro (_ | result) ds w' h
    · obtain ⟨rfl | rfl, -⟩ := h
      · simp [Trace.Plain]
      · simp [Trace.Plain, Event.isPlain]
    · rw [h]
      simp [Trace.Plain, Event.isPlain]
  · rintro k ds w' ⟨rfl, -⟩
    simp [Trace.Plain, Event.isPlain]

/-- A suspension is plain. -/
theorem suspend_plain (c : Controls) (millis : Option Nat) (w : World σ) :
  Session.StaysPlain c (Session.suspend c millis) w
  := by
  apply Session.Does.mono (Session.suspend_does c millis w)
  · rintro wake ds w' ⟨rfl, -⟩
    simp [Trace.Plain]
  · rintro k ds w' ⟨rfl, -⟩
    simp [Trace.Plain]

/-- The wait for an answer is plain, whatever the patience. -/
theorem awaitFrom_plain (P : Ports σ) (c : Controls) (url : String) (interval : Nat) :
    ∀ (patience attempts : Nat) (w : World σ),
      Session.StaysPlain c (awaitFrom P c url interval patience attempts) w
  | 0, attempts, w => by
    apply Session.does_throw
    intro _ he
    cases he
  | patience + 1, attempts, w => by
    apply Session.Does.bind
    apply Session.does_isRaised
    split
    case isTrue => apply Session.staysPlain_pure
    case isFalse =>
      apply Session.StaysPlain.bind (probe_plain P c url w)
      rintro (_ | (reason | reason) | _) w'
      · apply Session.staysPlain_pure
      · apply Session.StaysPlain.bind (suspend_plain c (some interval) w')
        rintro (_ | _) w''
        · apply awaitFrom_plain P c url interval patience
        · apply Session.staysPlain_pure
      · apply Session.staysPlain_pure
      · apply Session.StaysPlain.bind (Session.staysPlain_tell rfl)
        intro _ w''
        apply Session.staysPlain_pure

/-- Waiting for the instance is plain. -/
theorem await_plain (P : Ports σ) (c : Controls) (plan : Plan) (w : World σ) :
  Attempt.StaysPlain c (await P c plan) w
  := by
  apply Attempt.StaysPlain.bind
  · apply Attempt.staysPlain_lift
    apply awaitFrom_plain
  · rintro (fault | attempts) w'
    · apply Attempt.staysPlain_throw
    · apply Attempt.staysPlain_pure

/-! ### The part before the teardown -/

/-- What its steps maintain the part of a run before its teardown maintains: entering a phase,
telling the log, the stages, the launches and the wait. -/
theorem drive_maintains_of_steps {I K : World σ → Prop} {F : RunFault → World σ → Prop}
    (P : Ports σ) (c : Controls) (plan : Plan) (henter : ∀ p, Session.Maintains I K (Session.enter p))
    (htell : ∀ n, Event.isPlain (.noticed n) = true → Session.Maintains I K (Session.tell n))
    (hstage : ∀ phase n i failure, phase.Executes → Event.isPlain (.noticed n) = true →
      Attempt.Maintains I F K (stage P c phase n i failure))
    (hlaunch : ∀ service, Attempt.Maintains I F K (launchStep P c plan service))
    (hawait : Attempt.Maintains I F K (await P c plan)) :
  Attempt.Maintains I F K (drive P c plan)
  := by
  have hentering := fun p => Attempt.maintains_lift (F := F) (henter p)
  have htelling := fun n hn => Attempt.maintains_lift (F := F) (htell n hn)
  apply Attempt.Maintains.bind
  case h =>
    apply (hentering .building).bind
    intro _
    apply Attempt.maintains_forM
    intro service
    apply hstage _ _ _ _ (.inl rfl) rfl
  case hf =>
    intro _
    apply Attempt.Maintains.bind
    case h =>
      apply (hentering .launching).bind
      intro _
      apply Attempt.maintains_forM hlaunch
    case hf =>
      intro _
      apply Attempt.Maintains.bind
      case h =>
        rw [testWorkspace]
        split
        case isTrue =>
          apply (hentering .workspaceTesting).bind
          intro _
          apply hstage _ _ _ _ (.inr (.inl rfl)) rfl
        case isFalse => apply htelling _ rfl
      case hf =>
        intro _
        apply Attempt.Maintains.bind
        case h =>
          apply (hentering .waitingReady).bind
          intro _
          apply (htelling (.awaiting plan.url) rfl).bind
          intro _
          exact hawait
        case hf =>
          intro attempts
          apply Attempt.Maintains.bind
          case h =>
            apply (hentering .integrationTesting).bind
            intro _
            apply hstage _ _ _ _ (.inr (.inr rfl)) rfl
          case hf =>
            intro _
            apply Attempt.maintains_pure

/-- What entering a phase, the stages and everything plain maintain, the part of a run before its
teardown maintains. -/
theorem drive_maintains {I K : World σ → Prop} {F : RunFault → World σ → Prop} (P : Ports σ)
    (c : Controls) (plan : Plan) (henter : ∀ p, Session.Maintains I K (Session.enter p))
    (hplain : ∀ {α : Type} {m : Attempt σ α}, (∀ w, m.StaysPlain c w) → m.Maintains I F K)
    (hstage : ∀ phase n i failure, phase.Executes → Event.isPlain (.noticed n) = true →
      Attempt.Maintains I F K (stage P c phase n i failure)) :
  Attempt.Maintains I F K (drive P c plan)
  := by
  apply drive_maintains_of_steps P c plan henter
  case htell =>
    intro n hn w hw
    -- a session that is told ends as an attempt as it does by itself
    apply (Attempt.ends_lift _).mp
    apply hplain (m := liftM (Session.tell (σ := σ) n))
    · intro w
      apply Attempt.staysPlain_lift
      apply Session.staysPlain_tell hn
    · exact hw
  case hstage => exact hstage
  case hlaunch =>
    intro service
    apply hplain (launchStep_plain P c plan service)
  case hawait => apply hplain (await_plain P c plan)

/-! ### Whole runs -/

section

variable {I : World σ → Prop} {P : Ports σ} {plan : Plan}
  (htell : ∀ n, Event.isPlain (.noticed n) = true → Session.Maintains I I (Session.tell n))
  (hteardown : Session.Maintains I I (teardown P c))
include htell hteardown

/-- To give up a run maintains what the log and a teardown maintain. -/
theorem abandon_maintains (hw : I w) :
  I (abandon P c w)
  := by
  rw [abandon]
  split
  · exact hw
  · apply hteardown _ (htell (.abandoned w.live.length) rfl w hw)

variable (henter : ∀ p, Session.Maintains I I (Session.enter p))
include henter

/-- What the part of a run before its teardown leads to the run leads to, if what follows maintains
it. -/
theorem guarded_maintains (runId : String)
    (hdrive : Attempt.Ends (drive P c plan) (w.tell (.runStarted plan.services.length))
      (fun _ => I) (fun _ => I) (fun _ => I)) :
  Session.Ends (guarded P c plan runId) w (fun _ => I) (fun _ => I)
  := by
  -- what follows the failure of a run, or its tests
  have hfinish : ∀ {f : Teardown → Session σ (Except RunFault Summary)},
      (∀ t, Session.Maintains I I (f t)) →
      Session.Maintains I I (do
        Session.enter .teardown
        let t ← teardown P c
        Session.enter .done
        f t) := by
    intro f hf
    apply (henter .teardown).bind
    intro _
    apply hteardown.bind
    intro t
    apply (henter .done).bind
    intro _
    apply hf
  rw [guarded, Session.ends_bind, Session.ends_tell, Session.ends_bind]
  apply Session.Ends.mono hdrive
  · rintro (fault | attempts) w₁ hw₁
    · apply Session.Maintains.bind (henter .failed) _ w₁ hw₁
      intro _
      apply (htell (.runFailed fault) rfl).bind
      intro _
      apply hfinish
      intro _
      apply Session.maintains_pure
    · apply hfinish _ w₁ hw₁
      intro t
      apply (htell _ rfl).bind
      intro _
      apply Session.maintains_pure
  · intro _ w₁ hw₁
    exact hw₁

/-- What the part of a run before its teardown leads to holds after the run, if what follows
maintains it. -/
theorem perform_maintains (runId : String) (ports : σ) (hinitial : I (World.initial c ports))
    (hdrive : Attempt.Ends (drive P c plan) (started c plan ports)
      (fun _ => I) (fun _ => I) (fun _ => I)) :
  I (perform P c plan runId ports).world
  := by
  cases hplan : plan.defect? with
  | some defect =>
    rw [perform, hplan]
    exact hinitial
  | none =>
    apply perform_of_guarded (R := fun _ w => I w) hplan
    apply Session.Ends.mono (guarded_maintains htell hteardown henter runId hdrive)
    · intro _ w hw
      exact ⟨fun _ _ => hw, fun _ _ => hw⟩
    · intro _ w hw
      apply abandon_maintains htell hteardown hw

end

end Run

end ServiceHarness
